import HeapScope.Proofs.Report.Frames

namespace HeapScope

open FrameBuilder Journal

variable {σ : Type} [Sink σ] {view : SinkView σ} {before : Bytes} {limit : Nat}
  {recorder : Recorder σ} {journal : Journal}

theorem flush_reliable (reliable : view.Reliable) (recorder : Recorder σ)
    (usable : view.valid recorder.sink) (closed : recorder.frame.openControl = none) {error : Error}
    (failed : recorder.flushFrame.1 = .error error) : error.isTransport = false := by
  rcases Recorder.flush_frame_cases view recorder usable closed with
    ⟨_, flushed⟩ | ⟨_, _, flushed⟩ | ⟨outcome, sink, flushed, _, _, _, done, _⟩
  · rw [flushed] at failed
    cases failed
    rfl
  · rw [flushed] at failed
    cases failed
    rfl
  · rw [flushed, done reliable] at failed
    cases failed

theorem end_space_reliable (reliable : view.Reliable)
    (tracks : Tracks view before limit recorder journal) (space : SpaceId) {error : Error}
    (failed : (recorder.endSpace space).1 = .error error) : error.isTransport = false := by
  rcases Recorder.end_space_cases recorder space with
    ⟨other, fault, _, refused⟩ | ⟨frame, is, accepted, named, ended⟩
  · rw [refused] at failed
    cases failed
    exact fault
  · rw [ended] at failed
    exact flush_reliable reliable
      { recorder with frame, current := none, namesInFrame := false } tracks.usable
      (append_closes accepted) failed

theorem safepoint_reliable (reliable : view.Reliable)
    (tracks : Tracks view before limit recorder journal) (event : EventId) {error : Error}
    (failed : (recorder.safepoint event).1 = .error error) : error.isTransport = false := by
  rcases Recorder.safepoint_cases recorder event fun idle => tracks.idle (tracks_closed tracks idle) with
    ⟨_, _, refused⟩ | ⟨_, frame, counts, accepted, flushed⟩
  · rw [refused] at failed
    cases failed
    rfl
  · rw [flushed] at failed
    exact flush_reliable reliable { recorder with frame, counts } tracks.usable
      (append_closes accepted) failed

theorem shutdown_reliable (reliable : view.Reliable)
    (tracks : Tracks view before limit recorder journal) {error : Error}
    (failed : recorder.sendShutdown.1 = .error error) : error.isTransport = false := by
  rw [Recorder.send_shutdown_eq] at failed
  exact flush_reliable reliable { recorder.discard with frame := ⟨[0x0b], none⟩ } tracks.usable rfl
    failed

theorem end_space_parcels (reliable : view.Reliable)
    (tracks : Tracks view before limit recorder journal) {draft : Draft}
    (drafted : journal.draft = some draft) (space : SpaceId) :
    let next := journal.after recorder (.report (.endSpace space))
    (recorder.endSpace space).1 = .ok () ∧ next.draft = none ∧
        next.parcels = journal.parcels ++ [draft.parcel] ∨
      (∃ error, (recorder.endSpace space).1 = .error error) ∧ next.parcels = journal.parcels := by
  cases outcome : (recorder.endSpace space).1 with
  | ok done =>
    rw [after_outcome (.report (.endSpace space)) outcome]
    left
    simp [Journal.record, draftAfter, parcel?, handedOver, drafted]
  | error error =>
    rw [after_outcome (.report (.endSpace space)) outcome]
    right
    have fault : handedOver (.error error) = false := end_space_reliable reliable tracks space outcome
    simp [Journal.record, fault]

theorem drafted_report_sent (reliable : view.Reliable)
    (tracks : Tracks view before limit recorder journal) (draft : Draft)
    (drafted : journal.draft = some draft) (calls : List ReportCall)
    (writes : ∀ call ∈ calls, ∃ write, call.write? = some write) :
    let performed := performAll recorder (calls ++ [.endSpace draft.space])
    ∃ next, Tracks view before limit performed.reporter next ∧
      (performed.outcome = .ok () ∧ next.draft = none ∧ next.parcels = journal.parcels ++
          [{ draft with calls := draft.calls ++ calls.filterMap ReportCall.write? }.parcel] ∨
        (∃ error, performed.outcome = .error error) ∧ next.parcels = journal.parcels) := by
  induction calls generalizing recorder journal draft with
  | nil =>
    have kept := tracks_after tracks (.report (.endSpace draft.space))
    have ended := end_space_parcels reliable tracks drafted draft.space
    refine ⟨journal.after recorder (.report (.endSpace draft.space)), ?_⟩
    cases answer : recorder.endSpace draft.space with
    | mk outcome next =>
      have answered : Reporter.perform recorder (.endSpace draft.space) = (outcome, next) := answer
      change Tracks view before limit (recorder.endSpace draft.space).2 _ at kept
      rw [answer] at kept ended
      simp only [List.nil_append, performAll, answered]
      cases outcome <;> simpa using And.intro kept ended
  | cons call calls ih =>
    obtain ⟨write, named⟩ := writes call List.mem_cons_self
    have others := fun other member => writes other (List.mem_cons_of_mem call member)
    have kept := tracks_after tracks (.report call)
    have sameParcels : (journal.after recorder (.report call)).parcels = journal.parcels := by
      rw [after_outcome _ rfl, record_write named]
    cases answer : recorder.perform call with
    | mk outcome next =>
      have answered : Reporter.perform recorder call = (outcome, next) := answer
      change Tracks view before limit (recorder.perform call).2 _ at kept
      rw [answer] at kept
      simp only [List.cons_append, performAll, answered]
      cases outcome with
      | error error => exact ⟨_, kept, .inr ⟨⟨error, rfl⟩, sameParcels⟩⟩
      | ok done =>
        have added : (journal.after recorder (.report call)).draft = some (draft.add write) := by
          have accepted : (recorder.act (.report call)).1 = .ok () := congrArg Prod.fst answer
          rw [after_outcome _ accepted, record_write named, draft_after_write named, drafted]
          rfl
        have rest := ih kept _ added others
        rw [sameParcels] at rest
        rw [List.filterMap_cons_some named]
        simpa [Draft.add] using rest

theorem begun_report_sent (reliable : view.Reliable)
    (tracks : Tracks view before limit recorder journal) (event : EventId) (space : SpaceId)
    (tileCount : UInt32) {opened : Recorder σ}
    (begun : recorder.beginSpace event space tileCount = (.ok (), opened)) (calls : List ReportCall)
    (writes : ∀ call ∈ calls, ∃ write, call.write? = some write) :
    let performed := performAll opened (calls ++ [.endSpace space])
    ∃ next, Tracks view before limit performed.reporter next ∧
      (performed.outcome = .ok () ∧ next.draft = none ∧ next.parcels = journal.parcels ++
          [.report event space tileCount (gather (calls.filterMap ReportCall.write?))] ∨
        (∃ error, performed.outcome = .error error) ∧ next.parcels = journal.parcels) := by
  have kept := tracks_after tracks (.report (.beginSpace event space tileCount))
  have accepted : (recorder.act (.report (.beginSpace event space tileCount))).1 = .ok () :=
    congrArg Prod.fst begun
  change Tracks view before limit (recorder.beginSpace event space tileCount).2 _ at kept
  rw [begun, after_outcome _ accepted] at kept
  have sent := drafted_report_sent reliable kept ⟨event, space, tileCount, []⟩ rfl calls writes
  simpa [Journal.record, parcel?, Draft.parcel] using sent

theorem refused_report_named (recorder : Recorder σ) (calls : List ReportCall)
    (writes : ∀ call ∈ calls, ∃ write, call.write? = some write) (space : SpaceId) (error : Error)
    (refused : (performAll recorder (calls ++ [.endSpace space])).outcome = .error error) :
    (performAll recorder (calls ++ [.endSpace space])).reporter.named = recorder.named := by
  induction calls generalizing recorder with
  | nil =>
    have kept := recorder.end_space_refused_named space error
    cases answer : recorder.endSpace space with
    | mk outcome next =>
      have answered : Reporter.perform recorder (.endSpace space) = (outcome, next) := answer
      rw [answer] at kept
      simp only [List.nil_append, performAll, answered] at refused ⊢
      cases outcome with
      | error error => exact kept refused
      | ok done => cases refused
  | cons call calls ih =>
    obtain ⟨write, named⟩ := writes call List.mem_cons_self
    have others := fun other member => writes other (List.mem_cons_of_mem call member)
    have kept := recorder.write_named named
    cases answer : recorder.perform call with
    | mk outcome next =>
      have answered : Reporter.perform recorder call = (outcome, next) := answer
      rw [answer] at kept
      simp only [List.cons_append, performAll, answered] at refused ⊢
      cases outcome with
      | error error => exact kept
      | ok done => exact (ih next others refused).trans kept

theorem begin_space_refused (journal : Journal) (recorder : Recorder σ) (event : EventId)
    (space : SpaceId) (tileCount : UInt32) {error : Error}
    (refused : (recorder.beginSpace event space tileCount).1 = .error error) :
    (journal.after recorder (.report (.beginSpace event space tileCount))).parcels = journal.parcels := by
  rw [after_outcome (.report (.beginSpace event space tileCount)) refused]
  simp [Journal.record, parcel?]

end HeapScope
