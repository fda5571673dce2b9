import HeapScope.Proofs.Report.Sending
import HeapScope.Proofs.Report.Watching

namespace HeapScope

open FrameBuilder

def Draft.frameCalls (draft : Draft) : List FrameBuilder.Call :=
  .append (.spaceBegin draft.space draft.event draft.tileCount) :: draft.calls

def draftCalls : Option Draft → List FrameBuilder.Call
  | none => []
  | some draft => draft.frameCalls

variable {σ : Type} [Sink σ]

structure Tracks (view : SinkView σ) (before : Bytes) (limit : Nat) (recorder : Recorder σ)
    (journal : Journal) : Prop where
  usable : view.valid recorder.sink
  limited : recorder.frameLimit = limit
  current : recorder.current = journal.draft.map Draft.space
  frame : Carries (draftCalls journal.draft) recorder.frame
  idle : journal.draft = none → recorder.frame.openControl = none
  own : ∀ draft, journal.draft = some draft → ∀ call ∈ draft.calls, call.TellsOf draft.space
  sent : Sent view before limit recorder.sink journal.parcels journal.transportFailed
  formed : ∀ parcel ∈ journal.parcels, parcel.WellFormed

open Journal

section Steps

variable {view : SinkView σ} {before : Bytes} {limit : Nat} {recorder : Recorder σ}
  {journal : Journal}

theorem tracks_start (view : SinkView σ) (sink : σ) (usable : view.valid sink) (limit : Nat) :
    Tracks view (view.taken sink) limit (.withLimit sink limit) .blank where
  usable := usable
  limited := rfl
  current := rfl
  frame := .inr holds_empty
  idle _ := rfl
  own _ none := by cases none
  sent := sent_nothing view limit sink false
  formed := by simp [Journal.blank]

theorem tracks_apart (tracks : Tracks view before limit recorder journal) (next : Recorder σ)
    (sink : next.sink = recorder.sink) (frame : next.frame = recorder.frame)
    (current : next.current = recorder.current) (limits : next.frameLimit = recorder.frameLimit) :
    Tracks view before limit next journal where
  usable := sink ▸ tracks.usable
  limited := limits.trans tracks.limited
  current := current.trans tracks.current
  frame := frame ▸ tracks.frame
  idle := frame ▸ tracks.idle
  own := tracks.own
  sent := sink ▸ tracks.sent
  formed := tracks.formed

theorem tracks_worsens (tracks : Tracks view before limit recorder journal) (failed : Bool) :
    Tracks view before limit recorder
      { journal with transportFailed := journal.transportFailed || failed } :=
  { tracks with sent := sent_worsens tracks.sent failed }

theorem tracks_open {space : SpaceId} (tracks : Tracks view before limit recorder journal)
    (is : recorder.current = some space) : ∃ draft, journal.draft = some draft ∧ draft.space = space := by
  rw [tracks.current] at is
  cases drafted : journal.draft with
  | none => simp [drafted] at is
  | some draft =>
    rw [drafted, Option.map_some] at is
    exact ⟨draft, rfl, Option.some.inj is⟩

theorem tracks_closed (tracks : Tracks view before limit recorder journal)
    (is : recorder.current = none) : journal.draft = none := by
  rw [tracks.current] at is
  exact Option.map_eq_none_iff.mp is

theorem flush_tracks (view : SinkView σ) (recorder : Recorder σ) (parcel : Parcel)
    (usable : view.valid recorder.sink)
    (limited : recorder.frameLimit = limit) (current : recorder.current = none)
    (closed : recorder.frame.openControl = none)
    (reads : recorder.frame.payload.length < 2 ^ 32 →
      Wire.decode recorder.frame.payload = .ok (parcel.commands.map Command.onWire))
    (sent : Sent view before limit recorder.sink journal.parcels journal.transportFailed)
    (formed : ∀ parcel ∈ journal.parcels, parcel.WellFormed) (wellFormed : parcel.WellFormed) :
    Tracks view before limit recorder.flushFrame.2
      ⟨none,
        journal.parcels ++ (if handedOver recorder.flushFrame.1 then some parcel else none).toList,
        journal.transportFailed || failedInTransport recorder.flushFrame.1⟩ := by
  rcases Recorder.flush_frame_cases view recorder usable closed with
    ⟨long, refused⟩ | ⟨length, most, refused⟩ | ⟨outcome, sink, flushed, handed, fits, usableAfter, _, gave⟩
  -- A frame too long to be numbered stays behind; what follows in it is never sent either.
  · rw [refused]
    refine ⟨usable, limited, current, .inl long, fun _ => closed, by simp, ?_, ?_⟩
    · simpa [handedOver, failedInTransport, Error.isTransport] using sent
    · simpa [handedOver, Error.isTransport] using formed
  · rw [refused]
    refine ⟨usable, limited, current, .inr holds_empty, fun _ => rfl, by simp, ?_, ?_⟩
    · simpa [handedOver, failedInTransport, Error.isTransport] using sent
    · simpa [handedOver, Error.isTransport] using formed
  · rw [flushed]
    dsimp only
    rw [handed, if_pos rfl, Option.toList_some]
    rw [limited] at fits
    refine ⟨usableAfter, limited, current, .inr holds_empty, fun _ => rfl, by simp,
      sent_gave sent fits (reads fits.2) gave, ?_⟩
    intro other member
    rcases List.mem_append.mp member with earlier | last
    · exact formed other earlier
    · rw [List.mem_singleton.mp last]
      exact wellFormed

theorem draft_after_write {call : ReportCall} {write : FrameBuilder.Call}
    (named : call.write? = some write) (draft : Option Draft) (outcome : Except Error Unit) :
    draftAfter draft (.report call) outcome =
      match outcome with
      | .ok () => draft.map (·.add write)
      | .error _ => draft := by
  cases call <;> cases named <;> cases outcome <;> rfl

omit [Sink σ] in
theorem record_write {call : ReportCall} {write : FrameBuilder.Call} (named : call.write? = some write)
    (journal : Journal) (recorder : Recorder σ) (outcome : Except Error Unit) :
    journal.record recorder (.report call) outcome =
      ⟨draftAfter journal.draft (.report call) outcome, journal.parcels,
        journal.transportFailed || failedInTransport outcome⟩ := by
  have none : parcel? journal.draft recorder (.report call) = none := by cases call <;> cases named <;> rfl
  simp only [Journal.record, none, ite_self, Option.toList_none, List.append_nil]

theorem write_tracks (tracks : Tracks view before limit recorder journal) {call : ReportCall}
    {write : FrameBuilder.Call} (named : call.write? = some write) :
    Tracks view before limit (recorder.perform call).2 (journal.after recorder (.report call)) := by
  change Tracks view before limit (recorder.perform call).2
    (journal.record recorder (.report call) (recorder.perform call).1)
  rw [record_write named, draft_after_write named]
  rcases Recorder.write_cases recorder named with
    ⟨error, refused⟩ | ⟨frame, namesInFrame, accepted, put, target⟩
  · rw [refused]
    exact tracks_worsens tracks _
  · -- An entry names no space, but only an open report can have an open block.
    have found : ∃ draft, journal.draft = some draft ∧ write.TellsOf draft.space := by
      rcases target with ⟨space, is, tells⟩ | ⟨filling, tells⟩
      · obtain ⟨draft, drafted, rfl⟩ := tracks_open tracks is
        exact ⟨draft, drafted, tells⟩
      · cases drafted : journal.draft with
        | none => exact absurd (tracks.idle drafted) filling
        | some draft => exact ⟨draft, rfl, tells draft.space⟩
    obtain ⟨draft, drafted, tells⟩ := found
    have current := tracks.current
    have carries := tracks.frame
    have own := tracks.own draft drafted
    rw [drafted] at current carries
    rw [accepted, drafted]
    refine ⟨tracks.usable, tracks.limited, current, perform_carries carries tells put, ?_, ?_,
      sent_worsens tracks.sent false, tracks.formed⟩
    · intro none
      cases none
    · intro longer is call member
      cases is
      rcases List.mem_append.mp member with earlier | last
      · exact own call earlier
      · rw [List.mem_singleton.mp last]
        exact tells

theorem begin_space_tracks (tracks : Tracks view before limit recorder journal) (event : EventId)
    (space : SpaceId) (tileCount : UInt32) :
    Tracks view before limit (recorder.beginSpace event space tileCount).2
      (journal.after recorder (.report (.beginSpace event space tileCount))) := by
  change Tracks view before limit (recorder.beginSpace event space tileCount).2
    (journal.record recorder _ (recorder.beginSpace event space tileCount).1)
  simp only [Journal.record, parcel?, ite_self, Option.toList_none, List.append_nil, draftAfter]
  rcases Recorder.begin_space_cases recorder event space tileCount with
    ⟨error, refused⟩ | ⟨frame, idle, accepted, begun⟩
  · rw [refused]
    exact tracks_worsens tracks _
  · have carries := tracks.frame
    rw [tracks_closed tracks idle] at carries
    rw [begun]
    refine ⟨tracks.usable, tracks.limited, rfl, append_carries carries accepted, ?_, ?_,
      sent_worsens tracks.sent false, tracks.formed⟩
    · intro none
      cases none
    · intro fresh is call member
      cases is
      cases member

theorem end_space_tracks (tracks : Tracks view before limit recorder journal) (space : SpaceId) :
    Tracks view before limit (recorder.endSpace space).2
      (journal.after recorder (.report (.endSpace space))) := by
  change Tracks view before limit (recorder.endSpace space).2
    (journal.record recorder _ (recorder.endSpace space).1)
  rcases Recorder.end_space_cases recorder space with
    ⟨error, notTransport, notDropped, refused⟩ | ⟨frame, is, accepted, named, ended⟩
  · have kept : handedOver (.error error) = false := notTransport
    rw [refused]
    simpa [Journal.record, draftAfter, kept, notDropped] using
      tracks_worsens tracks (failedInTransport (.error error))
  · obtain ⟨draft, drafted, rfl⟩ := tracks_open tracks is
    have closed := append_closes accepted
    have carries := tracks.frame
    rw [drafted] at carries
    have gathered : gather draft.frameCalls ++ [.spaceEnd draft.space] = draft.parcel.commands := by
      rw [Draft.frameCalls, gather]
      rfl
    have flushed := flush_tracks view
      { recorder with frame, current := none, namesInFrame := false } draft.parcel tracks.usable
      tracks.limited rfl closed (fun small => gathered ▸ append_reads carries accepted small)
      tracks.sent tracks.formed (gather_tells draft.calls (tracks.own draft drafted))
    have settled := Recorder.flush_frame_settles
      { recorder with frame, current := none, namesInFrame := false } closed
    rw [ended]
    generalize Recorder.flushFrame
      { recorder with frame, current := none, namesInFrame := false } = result at flushed settled
    simpa [Journal.record, draftAfter, parcel?, drafted, settled] using
      tracks_apart flushed { result.2 with named } rfl rfl rfl rfl

theorem safepoint_tracks (tracks : Tracks view before limit recorder journal) (event : EventId) :
    Tracks view before limit (recorder.safepoint event).2
      (journal.after recorder (.report (.safepoint event))) := by
  change Tracks view before limit (recorder.safepoint event).2
    (journal.record recorder _ (recorder.safepoint event).1)
  rcases Recorder.safepoint_cases recorder event fun idle => tracks.idle (tracks_closed tracks idle) with
    ⟨space, is, refused⟩ | ⟨idle, frame, counts, accepted, flushed⟩
  · rw [refused]
    simpa [Journal.record, draftAfter, ReportCall.write?, handedOver, Error.isTransport] using
      tracks_worsens tracks (failedInTransport (.error (.safepointInsideSpace event space)))
  · have drafted := tracks_closed tracks idle
    have carries := tracks.frame
    rw [drafted] at carries
    have closed := append_closes accepted
    have reads := append_reads carries accepted
    rw [draftCalls, gather] at reads
    have done := flush_tracks view { recorder with frame, counts } (.safepoint event
        (UInt32.ofNat (min (recorder.eventCount event + 1) Recorder.largestCount)) recorder.compensation)
      tracks.usable tracks.limited idle closed reads
      tracks.sent tracks.formed trivial
    rw [flushed]
    simpa [Journal.record, draftAfter, ReportCall.write?, parcel?, drafted] using done

theorem shutdown_tracks (tracks : Tracks view before limit recorder journal) :
    Tracks view before limit recorder.sendShutdown.2 (journal.after recorder .shutdown) := by
  change Tracks view before limit recorder.sendShutdown.2
    (journal.record recorder _ recorder.sendShutdown.1)
  rw [Recorder.send_shutdown_eq]
  have reads := append_reads (.inr holds_empty) (append_closed [] [0x0b] .shutdown rfl)
  rw [gather] at reads
  exact flush_tracks view { recorder.discard with frame := ⟨[0x0b], none⟩ } .shutdown tracks.usable
    tracks.limited rfl
    rfl reads tracks.sent tracks.formed trivial

omit [Sink σ] in
theorem record_aside {action : Recorder.Action} (keeps : draftAfter journal.draft action (.ok ()) = journal.draft)
    (makes : parcel? journal.draft recorder action = none) :
    journal.record recorder action (.ok ()) = journal := by
  simp only [Journal.record, keeps, makes, ite_self, Option.toList_none, List.append_nil,
    failedInTransport, Bool.or_false]

theorem start_timer_tracks (tracks : Tracks view before limit recorder journal) (now : Duration) :
    Tracks view before limit (recorder.startTimer now) journal :=
  tracks_apart tracks _ rfl rfl rfl rfl

theorem stop_timer_tracks (tracks : Tracks view before limit recorder journal) (now : Duration) :
    Tracks view before limit (recorder.stopTimer now) journal := by
  unfold Recorder.stopTimer
  split
  · exact tracks
  · exact tracks_apart tracks _ rfl rfl rfl rfl

theorem tracks_after (tracks : Tracks view before limit recorder journal) (action : Recorder.Action) :
    Tracks view before limit (recorder.act action).2 (journal.after recorder action) := by
  cases action with
  | report call =>
    cases call with
    | tileNames | streamData | control | putControl | summary | spaceInfo =>
      exact write_tracks tracks rfl
    | beginSpace event space tileCount => exact begin_space_tracks tracks event space tileCount
    | endSpace space => exact end_space_tracks tracks space
    | safepoint event => exact safepoint_tracks tracks event
    | startTimer now =>
      change Tracks view before limit (recorder.startTimer now) (journal.record recorder _ (.ok ()))
      rw [record_aside rfl rfl]
      exact start_timer_tracks tracks now
    | stopTimer now =>
      change Tracks view before limit (recorder.stopTimer now) (journal.record recorder _ (.ok ()))
      rw [record_aside rfl rfl]
      exact stop_timer_tracks tracks now
  | discard =>
    change Tracks view before limit recorder.discard (journal.record recorder _ (.ok ()))
    simp only [Journal.record, draftAfter, parcel?, ite_self, Option.toList_none, List.append_nil]
    exact ⟨tracks.usable, tracks.limited, rfl, .inr holds_empty, fun _ => rfl, by simp,
      sent_worsens tracks.sent false, tracks.formed⟩
  | shutdown => exact shutdown_tracks tracks
  | addCompensation length =>
    change Tracks view before limit (recorder.addCompensation length) (journal.record recorder _ (.ok ()))
    rw [record_aside rfl rfl]
    exact tracks_apart tracks _ rfl rfl rfl rfl

theorem chronicle_tracks (view : SinkView σ) (sink : σ) (usable : view.valid sink) (limit : Nat)
    (actions : List Recorder.Action) :
    Tracks view (view.taken sink) limit
      (Chronicle.ofActions (.withLimit sink limit) actions).recorder
      (Chronicle.ofActions (.withLimit sink limit) actions).journal := by
  suffices each : ∀ chronicle : Chronicle σ,
      Tracks view (view.taken sink) limit chronicle.recorder chronicle.journal →
      Tracks view (view.taken sink) limit (actions.foldl Chronicle.after chronicle).recorder
        (actions.foldl Chronicle.after chronicle).journal from
    each _ (tracks_start view sink usable limit)
  induction actions with
  | nil =>
    intro chronicle tracks
    exact tracks
  | cons action actions ih =>
    intro chronicle tracks
    exact ih (chronicle.after action) (tracks_after tracks action)

theorem flush_fault_keeps (view : SinkView σ) (recorder : Recorder σ) {error : Error}
    (usable : view.valid recorder.sink)
    (closed : recorder.frame.openControl = none) (refused : recorder.flushFrame.1 = .error error)
    (fault : error.isTransport = false) : recorder.flushFrame.2.sink = recorder.sink := by
  rcases Recorder.flush_frame_cases view recorder usable closed with
    ⟨_, flushed⟩ | ⟨_, _, flushed⟩ | ⟨_, _, flushed, handed, _⟩
  · rw [flushed]
  · rw [flushed]
  · rw [flushed] at refused
    dsimp only at refused
    rw [refused, handedOver, fault] at handed
    cases handed

theorem fault_keeps_sink (tracks : Tracks view before limit recorder journal)
    (action : Recorder.Action) (error : Error) (refused : (recorder.act action).1 = .error error)
    (fault : error.isTransport = false) : (recorder.act action).2.sink = recorder.sink := by
  have write {call : ReportCall} {write : FrameBuilder.Call} (named : call.write? = some write) :
      (recorder.perform call).2.sink = recorder.sink := by
    rcases Recorder.write_cases recorder named with ⟨_, failed⟩ | ⟨_, _, accepted, _⟩
    · rw [failed]
    · rw [accepted]
  cases action with
  | report call =>
    cases call with
    | tileNames | streamData | control | putControl | summary | spaceInfo => exact write rfl
    | beginSpace event space tileCount =>
      change (recorder.beginSpace event space tileCount).2.sink = recorder.sink
      rcases Recorder.begin_space_cases recorder event space tileCount with
        ⟨_, failed⟩ | ⟨_, _, _, begun⟩
      · rw [failed]
      · rw [begun]
    | endSpace space =>
      change (recorder.endSpace space).1 = .error error at refused
      change (recorder.endSpace space).2.sink = recorder.sink
      rcases Recorder.end_space_cases recorder space with
        ⟨_, _, _, failed⟩ | ⟨frame, _, accepted, named, ended⟩
      · rw [failed]
      · rw [ended] at refused ⊢
        exact flush_fault_keeps view _ tracks.usable (append_closes accepted) refused fault
    | safepoint event =>
      change (recorder.safepoint event).1 = .error error at refused
      change (recorder.safepoint event).2.sink = recorder.sink
      rcases Recorder.safepoint_cases recorder event fun idle =>
          tracks.idle (tracks_closed tracks idle) with
        ⟨_, _, failed⟩ | ⟨_, frame, counts, accepted, flushed⟩
      · rw [failed]
      · rw [flushed] at refused ⊢
        exact flush_fault_keeps view _ tracks.usable (append_closes accepted) refused fault
    | startTimer now => cases refused
    | stopTimer now => cases refused
  | discard => cases refused
  | shutdown =>
    change recorder.sendShutdown.1 = .error error at refused
    change recorder.sendShutdown.2.sink = recorder.sink
    rw [Recorder.send_shutdown_eq] at refused ⊢
    exact flush_fault_keeps view { recorder.discard with frame := ⟨[0x0b], none⟩ } tracks.usable rfl
      refused fault
  | addCompensation length => cases refused

theorem chronicle_recorder (recorder : Recorder σ) (actions : List Recorder.Action) :
    (Chronicle.ofActions recorder actions).recorder = recorder.run actions := by
  suffices each : ∀ chronicle : Chronicle σ,
      (actions.foldl Chronicle.after chronicle).recorder = chronicle.recorder.run actions from each _
  induction actions with
  | nil =>
    intro chronicle
    rfl
  | cons action actions ih =>
    intro chronicle
    exact ih (chronicle.after action)

end Steps

structure HoldsFrames (view : SinkView σ) (sink : σ) (limit : Nat) (actions : List Recorder.Action)
    (journal : Journal) (recorder : Recorder σ) : Prop where
  frames : ∃ (payloads : List Bytes) (written : Bytes),
    view.taken recorder.sink = view.taken sink ++ written ∧
    written <+: payloads.flatMap frameOf ∧
    ((Recorder.withLimit sink limit).writeFailed actions = false ∨ journal.transportFailed = false →
      written = payloads.flatMap frameOf) ∧
    (∀ payload ∈ payloads, payload.length ≤ limit ∧ payload.length < 2 ^ 32) ∧
    payloads.map Wire.decode =
      journal.parcels.map fun parcel => .ok (parcel.commands.map Command.onWire)
  formed : ∀ parcel ∈ journal.parcels, parcel.WellFormed
  misuse_adds_nothing : ∀ action error, (recorder.act action).1 = .error error →
    error.isTransport = false → (recorder.act action).2.sink = recorder.sink

theorem sink_holds_whole_frames (view : SinkView σ) (sink : σ) (usable : view.valid sink)
    (limit : Nat) (actions : List Recorder.Action) :
    HoldsFrames view sink limit actions
      (Chronicle.ofActions (.withLimit sink limit) actions).journal
      ((Recorder.withLimit sink limit).run actions) := by
  -- The run is told by that of the watched sink, which remembers a failed write.
  let start := (Recorder.withLimit sink limit).watched
  have tracks := chronicle_tracks view sink usable limit actions
  have watched : Tracks view.watched (view.taken sink) limit
      (Chronicle.ofActions start actions).recorder (Chronicle.ofActions start actions).journal :=
    chronicle_tracks view.watched ⟨sink, false⟩ usable limit actions
  have same : Chronicle.ofActions (.withLimit sink limit) actions =
      ⟨(Chronicle.ofActions start actions).recorder.unwatched, (Chronicle.ofActions start actions).journal⟩ :=
    Chronicle.run_unwatched actions ⟨start, .blank⟩
  have failing : (Recorder.withLimit sink limit).writeFailed actions =
      (Chronicle.ofActions start actions).recorder.sink.failed :=
    congrArg (fun recorder => recorder.sink.failed) (chronicle_recorder start actions).symm
  rw [chronicle_recorder] at tracks
  obtain ⟨payloads, written, fit, decoded, taken, part, state⟩ := watched.sent
  refine ⟨⟨payloads, written, ?_, part, ?_, fit, ?_⟩, tracks.formed, fault_keeps_sink tracks⟩
  · rw [← chronicle_recorder, same]
    exact taken
  · intro fine
    rcases state with whole | ⟨⟨_, refused⟩, failed⟩
    · exact whole
    · rw [failing, same, refused, failed] at fine
      exact absurd fine (by decide)
  · rw [decoded, same]

-- The sink has room for a report with a misused call in it and for one byte of the next frame.
theorem full_sink_holds_a_report :
    let sink : MemorySink := ⟨[], some 20, some 3, .fails, false⟩
    let actions : List Recorder.Action := [.report (.beginSpace ⟨1⟩ ⟨2⟩ 1),
      .report (.spaceInfo ⟨2⟩ "x"), .report (.safepoint ⟨1⟩), .report (.endSpace ⟨2⟩), .shutdown]
    let recorder := (Recorder.withLimit sink 100).run actions
    let journal := (Chronicle.ofActions (.withLimit sink 100) actions).journal
    MemorySink.anyView.valid sink ∧
    recorder.sink.taken =
      [0, 0, 0, 15, 3, 2, 0, 1, 0, 0, 0, 1, 8, 2, 0, 1, 120, 9, 2, 0] ∧
    journal.parcels = [.report ⟨1⟩ ⟨2⟩ 1 [.spaceInfo ⟨2⟩ "x"], .shutdown] ∧
    ∃ payloads : List Bytes, recorder.sink.taken <+: payloads.flatMap frameOf ∧
      payloads.map Wire.decode =
        journal.parcels.map fun parcel => .ok (parcel.commands.map Command.onWire) := by
  intro sink actions recorder journal
  have bytes : recorder.sink.taken =
      [0, 0, 0, 15, 3, 2, 0, 1, 0, 0, 0, 1, 8, 2, 0, 1, 120, 9, 2, 0] := by
    simp only [recorder, actions, sink]
    decide +kernel
  have parcels : journal.parcels = [.report ⟨1⟩ ⟨2⟩ 1 [.spaceInfo ⟨2⟩ "x"], .shutdown] := by
    simp only [journal, actions, sink]
    decide +kernel
  refine ⟨trivial, bytes, parcels, ?_⟩
  obtain ⟨payloads, written, taken, part, _, _, decoded⟩ :=
    (sink_holds_whole_frames MemorySink.anyView sink trivial 100 actions).frames
  refine ⟨payloads, ?_, decoded⟩
  simp only [MemorySink.any_view_taken, sink, List.nil_append] at taken
  simp only [recorder, sink, taken]
  exact part

end HeapScope
