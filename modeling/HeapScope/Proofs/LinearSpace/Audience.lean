import HeapScope.Proofs.LinearSpace.Delivery

/- A linear space that reports to several recorders, each of them with a viewer of its own. Whether the
   names of the tiles are pending is noted of the space and not of each recorder: the first report that is
   accepted after a move takes the names along, and another recorder that has named the space before is
   not given them any more (`Outruns`). Its viewer goes on with the names it has kept. -/
namespace HeapScope

structure Audience (ι σ : Type) where
  space : LinearSpace
  recorders : ι → Recorder σ

namespace Audience

inductive Step (ι : Type) where
  | collect (call : LinearSpace.Call)
  | transmit (member : ι) (event : EventId) (started stopped : Duration)
  | discard (member : ι)

variable {ι σ : Type} [DecidableEq ι] [Sink σ]

def changed (audience : Audience ι σ) (member : ι) (recorder : Recorder σ) (other : ι) : Recorder σ :=
  if other = member then recorder else audience.recorders other

def after (audience : Audience ι σ) : Step ι → Audience ι σ
  | .collect call => { audience with space := (audience.space.perform call).2 }
  | .transmit member event started stopped =>
    let sent := audience.space.transmit (audience.recorders member) event started stopped
    ⟨sent.space, audience.changed member sent.reporter⟩
  | .discard member =>
    { audience with recorders := audience.changed member (audience.recorders member).discard }

def run (audience : Audience ι σ) (steps : List (Step ι)) : Audience ι σ := steps.foldl after audience

def Outruns (audience : Audience ι σ) (member : ι) : Step ι → Prop
  | .transmit other event started stopped =>
    other ≠ member ∧ audience.space.namesPending = true ∧
      (audience.recorders member).needsTileNames audience.space.id = false ∧
      (audience.space.transmit (audience.recorders other) event started stopped).outcome = .ok ()
  | _ => False

def Spared (member : ι) : Audience ι σ → List (Step ι) → Prop
  | _, [] => True
  | audience, step :: steps => ¬audience.Outruns member step ∧ Spared member (audience.after step) steps

structure Follows (view : SinkView σ) (limit : Nat) (id : SpaceId) (member : ι)
    (audience : Audience ι σ) (journal : Journal) : Prop where
  tracks : Tracks view [] limit (audience.recorders member) journal
  sound : audience.space.Sound
  named : audience.space.id = id

def Informed (member : ι) (audience : Audience ι σ) (journal : Journal) : Prop :=
  audience.space.namesPending = false →
    (audience.recorders member).needsTileNames audience.space.id = false →
    ∃ report, (Session.ofParcels journal.parcels).space? audience.space.id = some report ∧
      report.tileCount = audience.space.descriptor.tileCount ∧
      report.tileNames = audience.space.tiling.tileLabels

omit [Sink σ] in
theorem changed_own (audience : Audience ι σ) (member : ι) (recorder : Recorder σ) :
    audience.changed member recorder member = recorder := if_pos rfl

omit [Sink σ] in
theorem changed_other (audience : Audience ι σ) {member other : ι} (recorder : Recorder σ)
    (different : other ≠ member) : audience.changed member recorder other = audience.recorders other :=
  if_neg different

section Steps

variable {view : SinkView σ} {limit : Nat} {id : SpaceId} {member : ι} {audience : Audience ι σ}
  {journal next : Journal}

omit [DecidableEq ι] [Sink σ] in
theorem accepted_shown (sound : audience.space.Sound) (event : EventId)
    (parcels : next.parcels = journal.parcels ++ [.report event audience.space.id
      audience.space.descriptor.tileCount (audience.space.reportBody (audience.space.namesPending ||
        (audience.recorders member).needsTileNames audience.space.id))]) :
    (Session.ofParcels next.parcels).space? audience.space.id =
      some { audience.space.shownAs event audience.space.info with
        tileNames :=
          if audience.space.namesPending ||
              (audience.recorders member).needsTileNames audience.space.id then
            audience.space.tiling.tileLabels
          else (Session.ofParcels journal.parcels).keptNames audience.space.id
            audience.space.descriptor.tileCount } := by
  rw [parcels, Session.of_parcels_append, Session.after_parcel_reported, LinearSpace.body_shows sound]

omit [DecidableEq ι] [Sink σ] in
theorem informed_kept (informed : Informed member audience journal)
    (unpended : audience.space.namesPending = false)
    (told : (audience.recorders member).needsTileNames audience.space.id = false) :
    (Session.ofParcels journal.parcels).keptNames audience.space.id
      audience.space.descriptor.tileCount = audience.space.tiling.tileLabels := by
  obtain ⟨report, found, counted, names⟩ := informed unpended told
  rw [Session.keptNames, found]
  dsimp only
  rw [if_pos counted, names]

omit [DecidableEq ι] [Sink σ] in
theorem informed_names (informed : Informed member audience journal) :
    (if audience.space.namesPending ||
        (audience.recorders member).needsTileNames audience.space.id then
      audience.space.tiling.tileLabels
    else (Session.ofParcels journal.parcels).keptNames audience.space.id
      audience.space.descriptor.tileCount) = audience.space.tiling.tileLabels := by
  split
  · rfl
  · rename_i unsent
    obtain ⟨unpended, told⟩ := Bool.or_eq_false_iff.mp (Bool.not_eq_true _ ▸ unsent)
    exact informed_kept informed unpended told

theorem collect_follows (follows : Follows view limit id member audience journal)
    (call : LinearSpace.Call) :
    Follows view limit id member (audience.after (.collect call)) journal ∧
      (Informed member audience journal → Informed member (audience.after (.collect call)) journal) := by
  obtain ⟨sound, same, range⟩ := LinearSpace.perform_range follows.sound call
  refine ⟨⟨follows.tracks, sound, same.trans follows.named⟩, fun informed unpended told => ?_⟩
  change (audience.space.perform call).2.namesPending = false at unpended
  change (audience.recorders member).needsTileNames (audience.space.perform call).2.id = false at told
  change ∃ report, (Session.ofParcels journal.parcels).space? (audience.space.perform call).2.id =
    some report ∧ report.tileCount = (audience.space.perform call).2.descriptor.tileCount ∧
    report.tileNames = (audience.space.perform call).2.tiling.tileLabels
  rcases range with kept | moved
  · rw [kept.namesPending] at unpended
    rw [same] at told ⊢
    rw [kept.descriptor, kept.tiling]
    exact informed unpended told
  · rw [moved] at unpended
    cases unpended

theorem transmit_follows (reliable : view.Reliable)
    (follows : Follows view limit id member audience journal) (event : EventId)
    (started stopped : Duration) :
    ∃ next, Follows view limit id member (audience.after (.transmit member event started stopped)) next ∧
      (Informed member audience journal →
        Informed member (audience.after (.transmit member event started stopped)) next) := by
  obtain ⟨next, kept, sent⟩ :=
    LinearSpace.transmit_sent reliable follows.tracks follows.sound event started stopped
  simp only [after]
  generalize audience.space.transmit (audience.recorders member) event started stopped = done
    at kept sent
  rcases sent with ⟨_, unpended, _, parcels⟩ | ⟨_, unmoved, parcels, named⟩
  · have shown := accepted_shown follows.sound event parcels
    refine ⟨next, ⟨?_, ?_, ?_⟩, fun informed _ _ => ?_⟩
    · simpa only [changed_own] using kept
    · rw [unpended]
      exact { follows.sound with }
    · rw [unpended]
      exact follows.named
    · rw [unpended]
      exact ⟨_, shown, rfl, informed_names informed⟩
  · refine ⟨next, ⟨?_, ?_, ?_⟩, fun informed unpended told => ?_⟩
    · simpa only [changed_own] using kept
    · exact unmoved ▸ follows.sound
    · exact unmoved ▸ follows.named
    · simp only [changed_own, unmoved, Recorder.needsTileNames, named] at unpended told ⊢
      rw [parcels]
      exact informed unpended told

theorem others_follow (follows : Follows view limit id member audience journal) (other : ι)
    (different : other ≠ member) (event : EventId) (started stopped : Duration) :
    let step := Step.transmit other event started stopped
    Follows view limit id member (audience.after step) journal ∧
      (¬audience.Outruns member step → Informed member audience journal →
        Informed member (audience.after step) journal) := by
  intro step
  have same : (audience.after step).recorders member = audience.recorders member :=
    changed_other audience _ different.symm
  rcases audience.space.transmit_space (audience.recorders other) event started stopped with
    unmoved | ⟨accepted, unpended⟩
  · have still : (audience.after step).space = audience.space := unmoved
    refine ⟨⟨same ▸ follows.tracks, still ▸ follows.sound, still ▸ follows.named⟩, fun _ informed => ?_⟩
    rw [Informed, same, still]
    exact informed
  · have taken : (audience.after step).space = { audience.space with namesPending := false } := unpended
    refine ⟨⟨same ▸ follows.tracks, taken ▸ { follows.sound with }, taken ▸ follows.named⟩, ?_⟩
    intro spared informed _ told
    rw [same, taken] at told
    rw [taken]
    cases pending : audience.space.namesPending with
    | false => exact informed pending told
    | true => exact absurd ⟨different, pending, told, accepted⟩ spared

theorem discard_follows (follows : Follows view limit id member audience journal) (other : ι) :
    ∃ next, Follows view limit id member (audience.after (.discard other)) next ∧
      (Informed member audience journal → Informed member (audience.after (.discard other)) next) := by
  by_cases same : other = member
  · subst same
    have kept := tracks_after follows.tracks .discard
    have kept : Tracks view [] limit (audience.recorders other).discard
        (journal.after (audience.recorders other) .discard) := tracks_after follows.tracks .discard
    have gone : (audience.after (.discard other)).recorders other = (audience.recorders other).discard :=
      changed_own audience other _
    have parcels : (journal.after (audience.recorders other) .discard).parcels = journal.parcels := by
      simp [Journal.after, Journal.record, Journal.parcel?]
    refine ⟨_, ⟨gone ▸ kept, follows.sound, follows.named⟩, fun informed => ?_⟩
    rw [Informed, gone, parcels]
    exact informed
  · have still : (audience.after (.discard other)).recorders member = audience.recorders member :=
      changed_other audience _ (Ne.symm same)
    refine ⟨journal, ⟨still ▸ follows.tracks, follows.sound, follows.named⟩, fun informed => ?_⟩
    rw [Informed, still]
    exact informed

theorem step_follows (reliable : view.Reliable)
    (follows : Follows view limit id member audience journal) (step : Step ι) :
    ∃ next, Follows view limit id member (audience.after step) next ∧
      (¬audience.Outruns member step → Informed member audience journal →
        Informed member (audience.after step) next) := by
  cases step with
  | collect call =>
    obtain ⟨kept, informs⟩ := collect_follows follows call
    exact ⟨journal, kept, fun _ => informs⟩
  | transmit other event started stopped =>
    by_cases same : other = member
    · subst same
      obtain ⟨next, kept, informs⟩ := transmit_follows reliable follows event started stopped
      exact ⟨next, kept, fun _ => informs⟩
    · exact ⟨journal, others_follow follows other same event started stopped⟩
  | discard other =>
    obtain ⟨next, kept, informs⟩ := discard_follows follows other
    exact ⟨next, kept, fun _ => informs⟩

theorem run_follows (reliable : view.Reliable) (steps : List (Step ι))
    (follows : Follows view limit id member audience journal) :
    ∃ next, Follows view limit id member (audience.run steps) next ∧
      (Spared member audience steps → Informed member audience journal →
        Informed member (audience.run steps) next) := by
  induction steps generalizing audience journal with
  | nil => exact ⟨journal, follows, fun _ informed => informed⟩
  | cons step steps ih =>
    obtain ⟨next, kept, informs⟩ := step_follows reliable follows step
    obtain ⟨last, reached, informsLater⟩ := ih kept
    exact ⟨last, reached, fun spared informed => informsLater spared.2 (informs spared.1 informed)⟩

end Steps

def gather (space : LinearSpace) (sinks : ι → σ) (limits : ι → Nat) : Audience ι σ :=
  ⟨space, fun member => .withLimit (sinks member) (limits member)⟩

def viewed (view : SinkView σ) (limit : Nat) (recorder : Recorder σ) : Except Error Session :=
  Session.start.replay (((FrameSplitter.ofLimit limit).feed (view.taken recorder.sink)).drain)

theorem spared_member_sees_names (view : SinkView σ) (reliable : view.Reliable) (sinks : ι → σ)
    (usable : ∀ member, view.valid (sinks member)) (nothing : ∀ member, view.taken (sinks member) = [])
    (limits : ι → Nat) (id : SpaceId) (name : String) (start stop blockSize : UInt64)
    (space : LinearSpace) (made : LinearSpace.make id name start stop blockSize = .ok space)
    (mainSpace : Bool) (steps : List (Step ι)) (member : ι) (viewerLimit : Nat)
    (wide : limits member ≤ viewerLimit) (event : EventId) (started stopped : Duration) :
    let gathered := gather (space.withMainSpace mainSpace) sinks limits
    let audience := gathered.run steps
    let recorder := audience.recorders member
    let sent := audience.space.transmit recorder event started stopped
    sent.outcome = .ok () →
    ∃ before session report, viewed view viewerLimit recorder = .ok before ∧
      viewed view viewerLimit sent.reporter = .ok session ∧ session.space? id = some report ∧
      report.tileNames =
        (if audience.space.namesPending || recorder.needsTileNames id then
          audience.space.tiling.tileLabels
        else before.keptNames id audience.space.descriptor.tileCount) ∧
      (Spared member gathered steps →
        report.tileNames =
          (List.range sent.space.tiling.tileCount).map sent.space.tiling.tileLabel) := by
  intro gathered audience recorder sent accepted
  obtain ⟨sound, named, pending⟩ := LinearSpace.make_sound made
  have tracks := tracks_start view (sinks member) (usable member) (limits member)
  rw [nothing] at tracks
  have begun : Follows view (limits member) id member gathered .blank := ⟨tracks, { sound with }, named⟩
  have uninformed : Informed member gathered .blank := fun unpended => by
    change space.namesPending = false at unpended
    rw [pending] at unpended
    cases unpended
  obtain ⟨journal, follows, informs⟩ := run_follows reliable steps begun
  obtain ⟨next, kept, done⟩ :=
    LinearSpace.transmit_sent reliable follows.tracks follows.sound event started stopped
  rcases done with ⟨_, unpended, _, parcels⟩ | ⟨⟨error, refused⟩, _⟩
  · have shown := accepted_shown follows.sound event parcels
    rw [follows.named] at shown
    refine ⟨_, _, _, Session.replay_taken reliable follows.tracks wide,
      Session.replay_taken reliable kept wide, shown, rfl, fun spared => ?_⟩
    have names := informed_names (informs spared uninformed)
    rw [follows.named] at names
    change sent.space = _ at unpended
    rw [unpended]
    exact names
  · change sent.outcome = _ at refused
    rw [refused] at accepted
    cases accepted

theorem first_member_sees_names :
    let steps : List (Step Bool) := [.transmit true ⟨1⟩ ⟨0⟩ ⟨5⟩, .transmit false ⟨1⟩ ⟨5⟩ ⟨6⟩,
      .collect (.resize 64 192)]
    ∃ space, LinearSpace.make ⟨2⟩ "Main" 0 96 64 = .ok space ∧
      let gathered : Audience Bool MemorySink :=
        gather (space.withMainSpace true) (fun _ => .unlimited) (fun _ => 1000)
      let audience := gathered.run steps
      let sent := audience.space.transmit (audience.recorders false) ⟨1⟩ ⟨7⟩ ⟨9⟩
      Spared false gathered steps ∧ sent.outcome = .ok () ∧
      ∃ session report, viewed MemorySink.openView 1000 sent.reporter = .ok session ∧
        session.space? ⟨2⟩ = some report ∧
        report.tileNames =
          (List.range sent.space.tiling.tileCount).map sent.space.tiling.tileLabel := by
  intro steps
  have finished : (LinearSpace.make ⟨2⟩ "Main" 0 96 64).toOption.any (fun space =>
      let gathered : Audience Bool MemorySink :=
        gather (space.withMainSpace true) (fun _ => .unlimited) (fun _ => 1000)
      let audience := gathered.run steps
      let sent := audience.space.transmit (audience.recorders false) ⟨1⟩ ⟨7⟩ ⟨9⟩
      (gathered.recorders false).needsTileNames gathered.space.id && sent.outcome.isOk) = true := by
    simp only [steps]
    decide +kernel
  obtain ⟨space, made, passes⟩ := Wire.except_any_ok finished
  obtain ⟨asks, accepted⟩ := Bool.and_eq_true_iff.mp passes
  have usable : MemorySink.NeverFull MemorySink.unlimited := ⟨rfl, by simp [MemorySink.unlimited], rfl⟩
  have sees := spared_member_sees_names MemorySink.openView MemorySink.open_view_reliable
    (fun _ => .unlimited) (fun _ => usable) (fun _ => rfl) (fun _ => 1000) ⟨2⟩ "Main" 0 96 64 space made
    true steps false 1000 (Nat.le_refl 1000) ⟨1⟩ ⟨7⟩ ⟨9⟩
  refine ⟨space, made, ?_⟩
  dsimp only at asks accepted sees ⊢
  have spared : Spared false (gather (space.withMainSpace true) (fun _ => MemorySink.unlimited)
      fun _ => 1000) steps := by
    refine ⟨fun outruns => ?_, fun outruns => outruns.1 rfl, id, trivial⟩
    rw [outruns.2.2.1] at asks
    cases asks
  have accepted := Wire.except_unit_ok accepted
  obtain ⟨_, session, report, _, viewed, shown, _, names⟩ := sees accepted
  exact ⟨spared, accepted, session, report, viewed, shown, names spared⟩

theorem outrun_member_keeps_names :
    let steps : List (Step Bool) := [.transmit true ⟨1⟩ ⟨0⟩ ⟨5⟩, .transmit false ⟨1⟩ ⟨5⟩ ⟨6⟩,
      .collect (.resize 64 192), .transmit false ⟨1⟩ ⟨7⟩ ⟨9⟩]
    ∃ space, LinearSpace.make ⟨2⟩ "Main" 0 96 64 = .ok space ∧
      let audience : Audience Bool MemorySink :=
        (gather (space.withMainSpace true) (fun _ => .unlimited) (fun _ => 1000)).run steps
      let sent := audience.space.transmit (audience.recorders true) ⟨1⟩ ⟨10⟩ ⟨12⟩
      sent.outcome.isOk = true ∧
      ((viewed MemorySink.openView 1000 sent.reporter).toOption.bind (·.space? ⟨2⟩)).map (·.tileNames) =
        some ["0x0-0x40", "0x40-0x60"] ∧
      sent.space.tiling.tileLabels = ["0x40-0x80", "0x80-0xc0"] := by
  intro steps
  refine ⟨_, rfl, ?_⟩
  simp only [steps]
  decide +kernel

end Audience

end HeapScope
