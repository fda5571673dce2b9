import HeapScope.LinearSpace.Transmit
import HeapScope.Proofs.LinearSpace.Contents
import HeapScope.Proofs.Report.Reports
import HeapScope.Proofs.Session.Replay

/- A linear space, the recorder that it reports to, and the session of a viewer. The names of the tiles
   are not in every report, so the invariant (`Delivers`) says what the viewer has kept: unless the names
   are pending, its last report of the space has those of the present range. -/
namespace HeapScope

namespace LinearSpace

variable {σ : Type} [Sink σ] {view : SinkView σ} {before : Bytes} {limit : Nat}
  {recorder : Recorder σ} {journal : Journal} {space : LinearSpace}

def Sent (space : LinearSpace) (recorder : Recorder σ) (event : EventId) (journal next : Journal)
    (sent : Transmission (Recorder σ)) : Prop :=
  (sent.outcome = .ok () ∧ sent.space = { space with namesPending := false } ∧ next.draft = none ∧
    next.parcels = journal.parcels ++ [.report event space.id space.descriptor.tileCount
      (space.reportBody (space.namesPending || recorder.needsTileNames space.id))]) ∨
  ((∃ error, sent.outcome = .error error) ∧ sent.space = space ∧ next.parcels = journal.parcels ∧
    sent.reporter.named = recorder.named)

theorem send_sent (reliable : view.Reliable) (tracks : Tracks view before limit recorder journal)
    (sound : space.Sound) (event : EventId) :
    ∃ next, Tracks view before limit (space.send recorder event).reporter next ∧
      Sent space recorder event journal next (space.send recorder event) := by
  have same := recorder.begin_space_named event space.id space.descriptor.tileCount
  cases begun : recorder.beginSpace event space.id space.descriptor.tileCount with
  | mk outcome opened =>
    have answered : Reporter.perform recorder
        (.beginSpace event space.id space.descriptor.tileCount) = (outcome, opened) := begun
    rw [begun] at same
    dsimp only at same
    simp only [send, answered]
    cases outcome with
    | error error =>
      have kept := tracks_after tracks (.report (.beginSpace event space.id space.descriptor.tileCount))
      change Tracks view before limit
        (recorder.beginSpace event space.id space.descriptor.tileCount).2 _ at kept
      rw [begun] at kept
      exact ⟨_, kept, .inr ⟨⟨error, rfl⟩, rfl,
        begin_space_refused journal recorder _ _ _ (congrArg Prod.fst begun), same⟩⟩
    | ok done =>
      dsimp only
      have asks := recorder.begin_space_asks event space.id space.descriptor.tileCount space.id
      rw [begun] at asks
      change Reporter.needsTileNames opened space.id = _ at asks
      rw [asks]
      unfold Sent
      generalize (space.namesPending || recorder.needsTileNames space.id) = withNames
      have sent := begun_report_sent reliable tracks event space.id space.descriptor.tileCount begun
        (space.reportWrites withNames) (space.report_writes withNames)
      have named (error : Error) := refused_report_named opened (space.reportWrites withNames)
        (space.report_writes withNames) space.id error
      rw [← report_calls_end, report_gathered sound] at sent
      rw [← report_calls_end] at named
      generalize performAll opened (space.reportCalls withNames) = performed at sent named ⊢
      obtain ⟨next, kept, whole⟩ := sent
      refine ⟨next, ?_⟩
      obtain ⟨outcome, made, reporter⟩ := performed
      rcases whole with ⟨accepted, closed, parcels⟩ | ⟨⟨error, refused⟩, parcels⟩
      · cases accepted
        exact ⟨kept, .inl ⟨rfl, rfl, closed, parcels⟩⟩
      · cases refused
        exact ⟨kept, .inr ⟨⟨error, rfl⟩, rfl, parcels, (named error rfl).trans same⟩⟩

theorem transmit_sent (reliable : view.Reliable) (tracks : Tracks view before limit recorder journal)
    (sound : space.Sound) (event : EventId) (started stopped : Duration) :
    ∃ next, Tracks view before limit (space.transmit recorder event started stopped).reporter next ∧
      Sent space recorder event journal next (space.transmit recorder event started stopped) := by
  have running := start_timer_tracks tracks started
  obtain ⟨next, kept, sent⟩ := send_sent reliable running sound event
  refine ⟨next, stop_timer_tracks kept stopped, ?_⟩
  rcases sent with accepted | ⟨refused, unmoved, parcels, named⟩
  · exact .inl accepted
  · refine .inr ⟨refused, unmoved, parcels, ?_⟩
    exact (Recorder.stop_timer_named _ stopped).trans named

def Reported (space : LinearSpace) (event : EventId) (journal next : Journal)
    (sent : Transmission (Recorder σ)) : Prop :=
  (sent.outcome = .ok () ∧ sent.space = { space with namesPending := false } ∧ next.draft = none ∧
    ∃ withNames, (withNames = false → space.namesPending = false) ∧
      next.parcels = journal.parcels ++
        [.report event space.id space.descriptor.tileCount (space.reportBody withNames)]) ∨
  ((∃ error, sent.outcome = .error error) ∧ sent.space = space ∧ next.parcels = journal.parcels)

theorem transmit_reported (reliable : view.Reliable) (tracks : Tracks view before limit recorder journal)
    (sound : space.Sound) (event : EventId) (started stopped : Duration) :
    ∃ next, Tracks view before limit (space.transmit recorder event started stopped).reporter next ∧
      Reported space event journal next (space.transmit recorder event started stopped) := by
  obtain ⟨next, kept, sent⟩ := transmit_sent reliable tracks sound event started stopped
  refine ⟨next, kept, ?_⟩
  rcases sent with ⟨accepted, unpended, closed, parcels⟩ | ⟨refused, unmoved, same, _⟩
  · exact .inl ⟨accepted, unpended, closed, _, fun none => (Bool.or_eq_false_iff.mp none).1, parcels⟩
  · exact .inr ⟨refused, unmoved, same⟩

end LinearSpace

structure Reporting (σ : Type) where
  space : LinearSpace
  recorder : Recorder σ

namespace Reporting

open Journal

inductive Step where
  | collect (call : LinearSpace.Call)
  | transmit (event : EventId) (started stopped : Duration)
  | record (action : Recorder.Action)

def Step.told? : Step → Option String
  | .collect call => call.told?
  | _ => none

def told (steps : List Step) : String := ((steps.filterMap Step.told?).getLast?).getD ""

-- The space is reported by its own collector only.
def Step.Apart (id : SpaceId) : Step → Prop
  | .record (.report (.beginSpace _ space _)) => space ≠ id
  | _ => True

variable {σ : Type} [Sink σ]

-- A report that fails is thrown away.
def after (reporting : Reporting σ) : Step → Reporting σ
  | .collect call => { reporting with space := (reporting.space.perform call).2 }
  | .transmit event started stopped =>
    let sent := reporting.space.transmit reporting.recorder event started stopped
    match sent.outcome with
    | .ok () => ⟨sent.space, sent.reporter⟩
    | .error _ => ⟨sent.space, sent.reporter.discard⟩
  | .record action => { reporting with recorder := (reporting.recorder.act action).2 }

def run (reporting : Reporting σ) (steps : List Step) : Reporting σ := steps.foldl after reporting

theorem step_info (reporting : Reporting σ) (step : Step) :
    (reporting.after step).space.info = step.told?.getD reporting.space.info := by
  cases step with
  | collect call => exact reporting.space.perform_info call
  | transmit event started stopped =>
    have kept := reporting.space.transmit_space reporting.recorder event started stopped
    simp only [after]
    generalize reporting.space.transmit reporting.recorder event started stopped = sent at kept ⊢
    have same : sent.space.info = reporting.space.info := by
      rcases kept with same | ⟨_, same⟩ <;> rw [same]
    cases sent.outcome <;> exact same
  | record action => rfl

theorem run_info (reporting : Reporting σ) (steps : List Step) :
    (reporting.run steps).space.info =
      ((steps.filterMap Step.told?).getLast?).getD reporting.space.info := by
  induction steps generalizing reporting with
  | nil => rfl
  | cons step steps ih =>
    rw [run, List.foldl_cons, ← run, ih, step_info]
    cases tells : step.told? with
    | none => rw [List.filterMap_cons_none tells, Option.getD_none]
    | some text =>
      rw [List.filterMap_cons_some tells, List.getLast?_cons, Option.getD_some, Option.getD_some]

structure Delivers (view : SinkView σ) (limit : Nat) (id : SpaceId) (reporting : Reporting σ)
    (journal : Journal) : Prop where
  tracks : Tracks view [] limit reporting.recorder journal
  sound : reporting.space.Sound
  named : reporting.space.id = id
  apart : ∀ draft, journal.draft = some draft → draft.space ≠ id
  names : reporting.space.namesPending = false →
    ∃ report, (Session.ofParcels journal.parcels).space? id = some report ∧
      report.tileCount = reporting.space.descriptor.tileCount ∧
      report.tileNames = reporting.space.tiling.tileLabels

variable {view : SinkView σ} {limit : Nat} {id : SpaceId} {reporting : Reporting σ} {journal : Journal}

omit [Sink σ] in
theorem record_apart (apart : ∀ draft, journal.draft = some draft → draft.space ≠ id)
    (recorder : Recorder σ) (action : Recorder.Action) (aside : (Step.record action).Apart id)
    (outcome : Except Error Unit) :
    ∀ draft, (journal.record recorder action outcome).draft = some draft → draft.space ≠ id := by
  intro draft drafted
  change draftAfter journal.draft action outcome = some draft at drafted
  have written {call : ReportCall} {write : FrameBuilder.Call} (named : call.write? = some write)
      (drafted : draftAfter journal.draft (.report call) outcome = some draft) : draft.space ≠ id := by
    rw [draft_after_write named] at drafted
    cases outcome with
    | error error => exact apart draft drafted
    | ok done =>
      obtain ⟨earlier, was, rfl⟩ := Option.map_eq_some_iff.mp drafted
      exact apart earlier was
  cases action with
  | report call =>
    cases call with
    | beginSpace event space tileCount =>
      cases outcome with
      | error error => exact apart draft drafted
      | ok done =>
        cases drafted
        exact aside
    | endSpace space =>
      rw [draftAfter] at drafted
      split at drafted
      · cases drafted
      · exact apart draft drafted
    | tileNames | streamData | control | putControl | summary | spaceInfo => exact written rfl drafted
    | safepoint | startTimer | stopTimer => cases outcome <;> exact apart draft drafted
  | discard => cases drafted
  | shutdown => cases drafted
  | addCompensation length => exact apart draft drafted

omit [Sink σ] in
theorem record_shows (apart : ∀ draft, journal.draft = some draft → draft.space ≠ id)
    (recorder : Recorder σ) (action : Recorder.Action) (outcome : Except Error Unit) :
    (Session.ofParcels (journal.record recorder action outcome).parcels).space? id =
      (Session.ofParcels journal.parcels).space? id := by
  -- Only the end of a report makes a report's parcel, and the one that is open is of another space.
  have other : ∀ parcel, parcel? journal.draft recorder action = some parcel →
      ∀ event tileCount body, parcel ≠ .report event id tileCount body := by
    rintro parcel makes event tileCount body rfl
    cases action with
    | report call =>
      cases call with
      | endSpace space =>
        obtain ⟨draft, drafted, same⟩ := Option.map_eq_some_iff.mp makes
        cases same
        exact apart draft drafted rfl
      | _ => cases makes
    | _ => cases makes
  by_cases handed : handedOver outcome = true
  · cases makes : parcel? journal.draft recorder action with
    | none => simp [Journal.record, makes]
    | some parcel =>
      simp only [Journal.record, if_pos handed, makes, Option.toList_some]
      rw [Session.of_parcels_append]
      exact Session.after_parcel_space _ parcel id (other parcel makes)
  · simp [Journal.record, if_neg handed]

theorem record_delivers (delivers : Delivers view limit id reporting journal)
    (action : Recorder.Action) (aside : (Step.record action).Apart id) :
    Delivers view limit id (reporting.after (.record action))
      (journal.after reporting.recorder action) where
  tracks := tracks_after delivers.tracks action
  sound := delivers.sound
  named := delivers.named
  apart := record_apart delivers.apart reporting.recorder action aside _
  names current := by
    rw [Journal.after, record_shows delivers.apart]
    exact delivers.names current

theorem collect_delivers (delivers : Delivers view limit id reporting journal)
    (call : LinearSpace.Call) :
    Delivers view limit id (reporting.after (.collect call)) journal := by
  obtain ⟨sound, named, range⟩ := LinearSpace.perform_range delivers.sound call
  refine ⟨delivers.tracks, sound, named.trans delivers.named, delivers.apart, ?_⟩
  intro current
  rcases range with same | moved
  · obtain ⟨report, found, counted, names⟩ := delivers.names (same.namesPending ▸ current)
    refine ⟨report, found, counted.trans ?_, names.trans ?_⟩
    · exact congrArg SpaceDescriptor.tileCount same.descriptor.symm
    · exact congrArg Tiling.tileLabels same.tiling.symm
  · change (reporting.space.perform call).2.namesPending = false at current
    rw [moved] at current
    cases current

theorem reported_shown (delivers : Delivers view limit id reporting journal) (event : EventId)
    {withNames : Bool} (asked : withNames = false → reporting.space.namesPending = false)
    {next : Journal} (parcels : next.parcels = journal.parcels ++
      [.report event reporting.space.id reporting.space.descriptor.tileCount
        (reporting.space.reportBody withNames)]) :
    (Session.ofParcels next.parcels).space? id =
      some (reporting.space.shownAs event reporting.space.info) := by
  have kept : withNames = false → (Session.ofParcels journal.parcels).keptNames reporting.space.id
      reporting.space.descriptor.tileCount = reporting.space.tiling.tileLabels := by
    intro none
    obtain ⟨report, found, counted, names⟩ := delivers.names (asked none)
    rw [Session.keptNames, delivers.named, found]
    dsimp only
    rw [if_pos counted, names]
  have shown := LinearSpace.body_shown delivers.sound withNames _ event kept
  rw [parcels, Session.of_parcels_append, ← delivers.named, Session.after_parcel_reported, shown]

theorem transmit_delivers (reliable : view.Reliable)
    (delivers : Delivers view limit id reporting journal) (event : EventId)
    (started stopped : Duration) :
    ∃ next, Delivers view limit id (reporting.after (.transmit event started stopped)) next := by
  obtain ⟨next, kept, reported⟩ :=
    LinearSpace.transmit_reported reliable delivers.tracks delivers.sound event started stopped
  simp only [after]
  generalize reporting.space.transmit reporting.recorder event started stopped = sent at kept reported
  rcases reported with
    ⟨accepted, unpended, closed, withNames, asked, parcels⟩ | ⟨⟨error, refused⟩, same, parcels⟩
  · have shown := reported_shown delivers event asked parcels
    rw [accepted, unpended]
    refine ⟨next, kept, { delivers.sound with }, delivers.named, ?_, ?_⟩
    · intro draft drafted
      rw [closed] at drafted
      cases drafted
    · intro current
      exact ⟨_, shown, rfl, rfl⟩
  · -- Nothing of a report that failed was sent, so the viewer still has the one before.
    have discarded := tracks_after kept .discard
    rw [refused, same]
    refine ⟨_, discarded, delivers.sound, delivers.named, ?_, ?_⟩
    · intro draft drafted
      cases drafted
    · intro current
      obtain ⟨report, found, agrees⟩ := delivers.names current
      refine ⟨report, ?_, agrees⟩
      simpa [Journal.after, Journal.record, parcel?, parcels] using found

theorem run_delivers (reliable : view.Reliable) (steps : List Step)
    (apart : ∀ step ∈ steps, step.Apart id) (delivers : Delivers view limit id reporting journal) :
    ∃ next, Delivers view limit id (reporting.run steps) next := by
  induction steps generalizing reporting journal with
  | nil => exact ⟨journal, delivers⟩
  | cons step steps ih =>
    have others : ∀ other ∈ steps, other.Apart id := fun other member =>
      apart other (List.mem_cons_of_mem step member)
    cases step with
    | collect call => exact ih others (collect_delivers delivers call)
    | transmit event started stopped =>
      obtain ⟨next, delivered⟩ := transmit_delivers reliable delivers event started stopped
      exact ih others delivered
    | record action =>
      exact ih others (record_delivers delivers action (apart (.record action) List.mem_cons_self))

theorem fresh_delivers (view : SinkView σ) (sink : σ) (usable : view.valid sink)
    (nothing : view.taken sink = []) (limit : Nat) {id : SpaceId} {name : String}
    {start stop blockSize : UInt64} {space : LinearSpace}
    (made : LinearSpace.make id name start stop blockSize = .ok space) (mainSpace : Bool) :
    Delivers view limit id ⟨space.withMainSpace mainSpace, .withLimit sink limit⟩ .blank := by
  obtain ⟨sound, named, pending⟩ := LinearSpace.make_sound made
  have tracks := tracks_start view sink usable limit
  rw [nothing] at tracks
  refine ⟨tracks, { sound with }, named, ?_, ?_⟩
  · intro draft drafted
    cases drafted
  · intro current
    change space.namesPending = false at current
    rw [pending] at current
    cases current

theorem transmitted_report_shown (view : SinkView σ) (reliable : view.Reliable) (sink : σ)
    (usable : view.valid sink) (nothing : view.taken sink = []) (limit viewerLimit : Nat)
    (wide : limit ≤ viewerLimit) (id : SpaceId) (name : String) (start stop blockSize : UInt64)
    (space : LinearSpace) (made : LinearSpace.make id name start stop blockSize = .ok space)
    (mainSpace : Bool) (steps : List Step) (apart : ∀ step ∈ steps, step.Apart id)
    (event : EventId) (started stopped : Duration) :
    let earlier := run ⟨space.withMainSpace mainSpace, .withLimit sink limit⟩ steps
    let sent := earlier.space.transmit earlier.recorder event started stopped
    sent.outcome = .ok () →
    ∃ session,
      Session.start.replay
          ((FrameSplitter.ofLimit viewerLimit).feed (view.taken sent.reporter.sink)).drain =
        .ok session ∧
      session.space? id = some (sent.space.shownAs event (told steps)) ∧
      sent.space.descriptor.tileCount.toNat = sent.space.tiling.tileCount := by
  intro earlier sent accepted
  obtain ⟨journal, delivers⟩ :=
    run_delivers reliable steps apart (fresh_delivers view sink usable nothing limit made mainSpace)
  obtain ⟨next, kept, reported⟩ :=
    LinearSpace.transmit_reported reliable delivers.tracks delivers.sound event started stopped
  refine ⟨_, Session.replay_taken reliable kept wide, ?_⟩
  rcases reported with ⟨_, unpended, _, withNames, asked, parcels⟩ | ⟨⟨error, refused⟩, _⟩
  · have shown := reported_shown delivers event asked parcels
    change sent.space = _ at unpended
    have blank : (space.withMainSpace mainSpace).info = "" := (LinearSpace.make_info made :)
    have text : earlier.space.info = told steps := by rw [run_info, blank, told]
    rw [unpended, ← text]
    exact ⟨shown, delivers.sound.counted⟩
  · change sent.outcome = _ at refused
    rw [refused] at accepted
    cases accepted

-- The space is reported, given a text, moved to as many tiles as before and reported again.
theorem moved_space_shown :
    let steps : List Step := [.collect (.scan 10 100 true), .transmit ⟨1⟩ ⟨0⟩ ⟨5⟩,
      .record (.report (.safepoint ⟨1⟩)), .collect (.setInfo "moved"),
      .collect (.resize 64 192), .collect (.setCursor 100)]
    let earlier (space : LinearSpace) :=
      run ⟨space.withMainSpace true, .withLimit MemorySink.unlimited 1000⟩ steps
    let sent (space : LinearSpace) :=
      (earlier space).space.transmit (earlier space).recorder ⟨1⟩ ⟨5⟩ ⟨9⟩
    ∃ space, LinearSpace.make ⟨2⟩ "Main" 0 96 64 = .ok space ∧ (∀ step ∈ steps, step.Apart ⟨2⟩) ∧
      (sent space).outcome.isOk = true ∧
      ∃ session,
        Session.start.replay
            ((FrameSplitter.ofLimit 1000).feed (sent space).reporter.sink.taken).drain =
          .ok session ∧
        session.space? ⟨2⟩ = some ((sent space).space.shownAs ⟨1⟩ "moved") := by
  intro steps earlier sent
  have apart : ∀ step ∈ steps, step.Apart ⟨2⟩ := by simp [steps, Step.Apart]
  have usable : MemorySink.NeverFull MemorySink.unlimited := ⟨rfl, by simp [MemorySink.unlimited], rfl⟩
  have each (space : LinearSpace) (made : LinearSpace.make ⟨2⟩ "Main" 0 96 64 = .ok space)
      (finished : (sent space).outcome.isOk = true) :
      ∃ session, Session.start.replay
            ((FrameSplitter.ofLimit 1000).feed (sent space).reporter.sink.taken).drain =
          .ok session ∧
        session.space? ⟨2⟩ = some ((sent space).space.shownAs ⟨1⟩ "moved") := by
    have accepted : (sent space).outcome = .ok () := by
      cases outcome : (sent space).outcome with
      | ok done => rfl
      | error error =>
        rw [outcome] at finished
        cases finished
    obtain ⟨session, replayed, shown, _⟩ := transmitted_report_shown MemorySink.openView
      MemorySink.open_view_reliable .unlimited usable rfl 1000 1000 (Nat.le_refl 1000) ⟨2⟩ "Main" 0 96
      64 space made true steps apart ⟨1⟩ ⟨5⟩ ⟨9⟩ accepted
    exact ⟨session, replayed, shown⟩
  have finished : ∃ space, LinearSpace.make ⟨2⟩ "Main" 0 96 64 = .ok space ∧
      (sent space).outcome.isOk = true := by
    refine ⟨_, rfl, ?_⟩
    simp only [sent, earlier, steps]
    decide +kernel
  obtain ⟨space, made, finished⟩ := finished
  exact ⟨space, made, apart, finished, each space made finished⟩

end Reporting

end HeapScope
