import HeapScope.Proofs.Report.Reports
import HeapScope.Proofs.Session.Ledger

namespace HeapScope

open Journal

variable {σ : Type}

structure Ledger.Agrees (ledger : Ledger) (recorder : Recorder σ) (session : Session) : Prop where
  counted : ∀ event, recorder.eventCount event = ledger.timesAsked event
  spaces : ∀ space, ShowsLatest (session.space? space) (ledger.reportsOf space)
  safepoints : session.safepoints = ledger.passed
  farewell : session.shutDown = ledger.farewell

namespace Ledger

theorem agrees_start (sink : σ) (limit : Nat) :
    Ledger.blank.Agrees (.withLimit sink limit) .start where
  counted _ := rfl
  spaces _ := rfl
  safepoints := rfl
  farewell := rfl

theorem agrees_apart {ledger : Ledger} {recorder next : Recorder σ} {session : Session}
    (agrees : ledger.Agrees recorder session) (counts : next.counts = recorder.counts) :
    ledger.Agrees next session where
  counted event := by
    rw [← agrees.counted, Recorder.eventCount, Recorder.eventCount, counts]
  spaces := agrees.spaces
  safepoints := agrees.safepoints
  farewell := agrees.farewell

theorem file_agrees {ledger : Ledger} {recorder : Recorder σ} {session : Session}
    (agrees : ledger.Agrees recorder session) (draft : Draft) :
    (ledger.file (some draft)).Agrees recorder (session.afterParcel draft.parcel) where
  counted := agrees.counted
  spaces space := by
    by_cases same : draft.space = space
    · subst same
      have filed : (ledger.file (some draft)).reportsOf draft.space =
          draft.filed :: ledger.reportsOf draft.space :=
        List.filter_cons_of_pos (decide_eq_true rfl)
      rw [filed]
      exact ⟨_, Session.after_parcel_reported session _ _ _ _,
        snapshot_shows session draft.filed _ (agrees.spaces draft.space)⟩
    · have filed : (ledger.file (some draft)).reportsOf space = ledger.reportsOf space :=
        List.filter_cons_of_neg fun found => same (of_decide_eq_true found)
      rw [filed, Session.after_parcel_space]
      · exact agrees.spaces space
      · rintro event tileCount body report
        cases report
        exact same rfl
  safepoints := agrees.safepoints
  farewell := agrees.farewell

theorem ask_agrees {ledger : Ledger} {recorder next : Recorder σ} {session : Session}
    (agrees : ledger.Agrees recorder session) (event : EventId)
    (counts : next.counts = recorder.counts.insert event
      (min (recorder.eventCount event + 1) Recorder.largestCount)) :
    (ledger.ask event none).Agrees next session where
  counted other := by
    have before := agrees.counted other
    rw [timesAsked] at before
    rw [Recorder.eventCount, counts, timesAsked, ask, if_pos rfl]
    by_cases same : other = event
    · subst same
      rw [Table.get_insert_self, Option.getD_some, before, List.count_cons_self]
      omega
    · rw [Table.get_insert_of_ne _ _ _ _ same, List.count_cons_of_ne (Ne.symm same)]
      exact before
  spaces := agrees.spaces
  safepoints := agrees.safepoints
  farewell := agrees.farewell

theorem pass_agrees {ledger : Ledger} {recorder : Recorder σ} {session : Session}
    (agrees : ledger.Agrees recorder session) (event : EventId) (compensation : Duration) :
    (ledger.pass event compensation).Agrees recorder (session.afterParcel
      (.safepoint event (UInt32.ofNat (ledger.timesAsked event)) compensation)) where
  counted := agrees.counted
  spaces := agrees.spaces
  safepoints := by rw [Session.afterParcel, pass, agrees.safepoints]
  farewell := agrees.farewell

theorem shutdown_agrees {ledger : Ledger} {recorder : Recorder σ} {session : Session}
    (agrees : ledger.Agrees recorder session) :
    Agrees { ledger with farewell := true } recorder (session.afterParcel .shutdown) where
  counted := agrees.counted
  spaces := agrees.spaces
  safepoints := agrees.safepoints
  farewell := rfl

theorem aside_agrees {ledger : Ledger} {recorder next : Recorder σ} {journal : Journal}
    (agrees : ledger.Agrees recorder (Session.ofParcels journal.parcels)) (action : Recorder.Action)
    (makes : parcel? journal.draft recorder action = none) (outcome : Except Error Unit)
    (counts : next.counts = recorder.counts) :
    ledger.Agrees next (Session.ofParcels (journal.record recorder action outcome).parcels) := by
  rw [Journal.record, makes, ite_self, Option.toList_none, List.append_nil]
  exact agrees_apart agrees counts

theorem refused_agrees {ledger : Ledger} {recorder next : Recorder σ} {journal : Journal}
    (agrees : ledger.Agrees next (Session.ofParcels journal.parcels)) (action : Recorder.Action)
    {error : Error} (fault : error.isTransport = false) :
    ledger.Agrees next (Session.ofParcels (journal.record recorder action (.error error)).parcels) := by
  have kept : handedOver (.error error) = false := fault
  simpa [Journal.record, kept] using agrees

variable [Sink σ]

theorem flush_keeps_counts (recorder : Recorder σ) : recorder.flushFrame.2.counts = recorder.counts := by
  obtain ⟨sink, frame, flushed⟩ := Recorder.flush_keeps recorder
  rw [flushed]

theorem safepoint_counts (recorder : Recorder σ) (event : EventId) (idle : recorder.current = none) :
    (recorder.safepoint event).2.counts = recorder.counts.insert event
      (min (recorder.eventCount event + 1) Recorder.largestCount) := by
  simp only [Recorder.safepoint, idle]
  split
  · rename_i refused
    unfold Recorder.write at refused
    split at refused
    · cases refused
      rfl
    · cases refused
  · rename_i accepted
    rw [flush_keeps_counts]
    unfold Recorder.write at accepted
    split at accepted
    · cases accepted
    · cases accepted
      rfl

theorem write_keeps_counts (recorder : Recorder σ) {call : ReportCall} {write : FrameBuilder.Call}
    (named : call.write? = some write) : (recorder.perform call).2.counts = recorder.counts := by
  rcases Recorder.write_cases recorder named with ⟨_, refused⟩ | ⟨_, _, accepted, _⟩
  · rw [refused]
  · rw [accepted]

variable {view : SinkView σ} {before : Bytes} {limit : Nat} {recorder : Recorder σ}
  {journal : Journal} {ledger : Ledger}

theorem end_space_agrees (reliable : view.Reliable)
    (tracks : Tracks view before limit recorder journal)
    (agrees : ledger.Agrees recorder (Session.ofParcels journal.parcels)) (space : SpaceId) :
    (ledger.record journal.draft recorder (.report (.endSpace space)) (recorder.endSpace space).1).Agrees
      (recorder.endSpace space).2
      (Session.ofParcels (journal.after recorder (.report (.endSpace space))).parcels) := by
  have counts : (recorder.endSpace space).2.counts = recorder.counts := by
    rcases Recorder.end_space_cases recorder space with ⟨_, _, _, refused⟩ | ⟨_, _, _, _, ended⟩
    · rw [refused]
    · rw [ended]
      exact flush_keeps_counts _
  cases outcome : (recorder.endSpace space).1 with
  | ok done =>
    have drafted : ∃ draft, journal.draft = some draft := by
      rcases Recorder.end_space_cases recorder space with ⟨_, _, _, refused⟩ | ⟨_, is, _⟩
      · rw [refused] at outcome
        cases outcome
      · obtain ⟨draft, drafted, _⟩ := tracks_open tracks is
        exact ⟨draft, drafted⟩
    obtain ⟨draft, drafted⟩ := drafted
    rw [after_outcome (.report (.endSpace space)) outcome, Journal.record, drafted, handedOver,
      if_pos rfl, parcel?, Option.map_some, Option.toList_some, Session.of_parcels_append]
    exact file_agrees (agrees_apart agrees counts) draft
  | error error =>
    rw [after_outcome (.report (.endSpace space)) outcome]
    exact refused_agrees (agrees_apart agrees counts) _ (end_space_reliable reliable tracks space outcome)

theorem safepoint_agrees (reliable : view.Reliable)
    (tracks : Tracks view before limit recorder journal)
    (agrees : ledger.Agrees recorder (Session.ofParcels journal.parcels)) (event : EventId) :
    (ledger.record journal.draft recorder (.report (.safepoint event)) (recorder.safepoint event).1).Agrees
      (recorder.safepoint event).2
      (Session.ofParcels (journal.after recorder (.report (.safepoint event))).parcels) := by
  have asked : (ledger.ask event recorder.current).Agrees (recorder.safepoint event).2
      (Session.ofParcels journal.parcels) := by
    cases current : recorder.current with
    | none => exact ask_agrees agrees event (safepoint_counts recorder event current)
    | some space =>
      have refused : (recorder.safepoint event).2 = recorder := by simp only [Recorder.safepoint, current]
      rw [refused]
      exact agrees
  cases outcome : (recorder.safepoint event).1 with
  | ok done =>
    have idle : recorder.current = none := by
      cases current : recorder.current with
      | none => rfl
      | some space =>
        simp only [Recorder.safepoint, current] at outcome
        cases outcome
    have counted := asked.counted event
    rw [Recorder.eventCount, safepoint_counts recorder event idle, Table.get_insert_self,
      Option.getD_some] at counted
    rw [after_outcome (.report (.safepoint event)) outcome, Journal.record, handedOver, if_pos rfl,
      parcel?, Option.toList_some, Session.of_parcels_append, counted]
    exact pass_agrees asked event recorder.compensation
  | error error =>
    rw [after_outcome (.report (.safepoint event)) outcome]
    exact refused_agrees asked _ (safepoint_reliable reliable tracks event outcome)

theorem send_shutdown_agrees (reliable : view.Reliable)
    (tracks : Tracks view before limit recorder journal)
    (agrees : ledger.Agrees recorder (Session.ofParcels journal.parcels)) :
    (ledger.record journal.draft recorder .shutdown recorder.sendShutdown.1).Agrees
      recorder.sendShutdown.2 (Session.ofParcels (journal.after recorder .shutdown).parcels) := by
  have counts : recorder.sendShutdown.2.counts = recorder.counts := by
    rw [Recorder.send_shutdown_eq]
    exact flush_keeps_counts _
  cases outcome : recorder.sendShutdown.1 with
  | ok done =>
    rw [after_outcome .shutdown outcome, Journal.record, handedOver, if_pos rfl, parcel?,
      Option.toList_some, Session.of_parcels_append]
    exact shutdown_agrees (agrees_apart agrees counts)
  | error error =>
    rw [after_outcome .shutdown outcome]
    exact refused_agrees (agrees_apart agrees counts) _ (shutdown_reliable reliable tracks outcome)

theorem agrees_after (reliable : view.Reliable) (tracks : Tracks view before limit recorder journal)
    (agrees : ledger.Agrees recorder (Session.ofParcels journal.parcels)) (action : Recorder.Action) :
    (ledger.record journal.draft recorder action (recorder.act action).1).Agrees (recorder.act action).2
      (Session.ofParcels (journal.after recorder action).parcels) := by
  cases action with
  | report call =>
    cases call with
    | tileNames | streamData | control | putControl | summary | spaceInfo =>
      exact aside_agrees agrees _ rfl _ (write_keeps_counts recorder rfl)
    | beginSpace event space tileCount =>
      refine aside_agrees agrees _ rfl _ ?_
      change (recorder.beginSpace event space tileCount).2.counts = recorder.counts
      rcases Recorder.begin_space_cases recorder event space tileCount with
        ⟨_, refused⟩ | ⟨_, _, _, begun⟩
      · rw [refused]
      · rw [begun]
    | endSpace space => exact end_space_agrees reliable tracks agrees space
    | safepoint event => exact safepoint_agrees reliable tracks agrees event
    | startTimer now => exact aside_agrees agrees _ rfl _ rfl
    | stopTimer now =>
      refine aside_agrees agrees _ rfl _ ?_
      change (recorder.stopTimer now).counts = recorder.counts
      unfold Recorder.stopTimer
      split <;> rfl
  | discard => exact aside_agrees agrees _ rfl _ rfl
  | shutdown => exact send_shutdown_agrees reliable tracks agrees
  | addCompensation length => exact aside_agrees agrees _ rfl _ rfl

end Ledger

namespace Account

variable [Sink σ]

theorem account_agrees {view : SinkView σ} (reliable : view.Reliable) (sink : σ)
    (usable : view.valid sink) (limit : Nat) (actions : List Recorder.Action) :
    let account := Account.ofActions (.withLimit sink limit) actions
    account.ledger.Agrees account.chronicle.recorder
      (Session.ofParcels account.chronicle.journal.parcels) := by
  suffices each : ∀ account : Account σ,
      Tracks view (view.taken sink) limit account.chronicle.recorder account.chronicle.journal →
      account.ledger.Agrees account.chronicle.recorder
        (Session.ofParcels account.chronicle.journal.parcels) →
      (actions.foldl after account).ledger.Agrees (actions.foldl after account).chronicle.recorder
        (Session.ofParcels (actions.foldl after account).chronicle.journal.parcels) from
    each _ (tracks_start view sink usable limit) (Ledger.agrees_start sink limit)
  induction actions with
  | nil =>
    intro account _ agrees
    exact agrees
  | cons action actions ih =>
    intro account tracks agrees
    exact ih (account.after action) (tracks_after tracks action)
      (Ledger.agrees_after reliable tracks agrees action)

end Account

theorem viewer_agrees [Sink σ] (view : SinkView σ) (reliable : view.Reliable) (sink : σ)
    (usable : view.valid sink) (fresh : view.taken sink = []) (limit viewerLimit : Nat)
    (wide : limit ≤ viewerLimit) (actions : List Recorder.Action) :
    let recorder := (Recorder.withLimit sink limit).run actions
    let ledger := (Account.ofActions (.withLimit sink limit) actions).ledger
    ∃ session,
      Session.start.replay
          (((FrameSplitter.ofLimit viewerLimit).feed (view.taken recorder.sink)).drain) =
        .ok session ∧
      (∀ space, ShowsLatest (session.space? space) (ledger.reportsOf space)) ∧
      session.safepoints = ledger.passed ∧
      session.shutDown = ledger.farewell := by
  intro recorder ledger
  have agrees := Account.account_agrees reliable sink usable limit actions
  have tracks := chronicle_tracks view sink usable limit actions
  simp only [Account.account_chronicle] at agrees
  rw [fresh] at tracks
  have replayed := Session.replay_taken reliable tracks wide
  rw [chronicle_recorder] at replayed
  exact ⟨_, replayed, agrees.spaces, agrees.safepoints, agrees.farewell⟩

-- A report with names, a misused safepoint in it, one that is too large and dropped, and a goodbye.
theorem busy_recorder_agreed :
    let actions : List Recorder.Action := [.addCompensation ⟨2500⟩, .report (.safepoint ⟨1⟩),
      .report (.beginSpace ⟨1⟩ ⟨2⟩ 1), .report (.tileNames ⟨2⟩ ["a"]), .report (.safepoint ⟨1⟩),
      .report (.endSpace ⟨2⟩), .report (.beginSpace ⟨1⟩ ⟨2⟩ 1),
      .report (.spaceInfo ⟨2⟩ "much too long a text"), .report (.endSpace ⟨2⟩),
      .report (.safepoint ⟨1⟩), .shutdown]
    let recorder := (Recorder.withLimit MemorySink.unlimited 24).run actions
    let ledger := (Account.ofActions (.withLimit MemorySink.unlimited 24) actions).ledger
    MemorySink.openView.valid MemorySink.unlimited ∧
    ledger.reports.map FiledReport.body = [[.tileNames ⟨2⟩ ["a"]]] ∧
    ledger.passed = [⟨⟨1⟩, 1, 2⟩, ⟨⟨1⟩, 2, 2⟩] ∧ ledger.farewell = true ∧
    ∃ session,
      Session.start.replay (((FrameSplitter.ofLimit 64).feed recorder.sink.taken).drain) =
        .ok session ∧
      (∀ space, ShowsLatest (session.space? space) (ledger.reportsOf space)) ∧
      session.safepoints = ledger.passed ∧
      session.shutDown = ledger.farewell := by
  intro actions recorder ledger
  have usable : MemorySink.openView.valid MemorySink.unlimited := ⟨rfl, by simp [MemorySink.unlimited], rfl⟩
  have reports : ledger.reports.map FiledReport.body = [[.tileNames ⟨2⟩ ["a"]]] := by
    simp only [ledger, actions]
    decide +kernel
  have passed : ledger.passed = [⟨⟨1⟩, 1, 2⟩, ⟨⟨1⟩, 2, 2⟩] := by
    simp only [ledger, actions]
    decide +kernel
  have farewell : ledger.farewell = true := by
    simp only [ledger, actions]
    decide +kernel
  exact ⟨usable, reports, passed, farewell, viewer_agrees MemorySink.openView
    MemorySink.open_view_reliable MemorySink.unlimited usable rfl 24 64 (by decide) actions⟩

end HeapScope
