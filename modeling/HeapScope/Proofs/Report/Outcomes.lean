import HeapScope.Proofs.Report.Journal

namespace HeapScope

namespace FrameBuilder

theorem append_ok {builder next : FrameBuilder} {command : Command}
    (accepted : builder.append command = .ok next) :
    builder.openControl = none ∧ ∃ bytes, Wire.encode command = .ok bytes ∧
      next = ⟨builder.payload ++ bytes, none⟩ := by
  obtain ⟨payload, openControl⟩ := builder
  obtain ⟨_, filled, accepted⟩ := Wire.except_bind_ok accepted
  obtain ⟨bytes, written, accepted⟩ := Wire.except_bind_ok accepted
  cases openControl with
  | some block => cases filled
  | none =>
    cases accepted
    exact ⟨rfl, bytes, written, rfl⟩

theorem append_closes {builder next : FrameBuilder} {command : Command}
    (accepted : builder.append command = .ok next) : next.openControl = none := by
  obtain ⟨_, _, _, rfl⟩ := append_ok accepted
  rfl

theorem settle_ok {old next : FrameBuilder} {changed : Except Error FrameBuilder}
    {answer : Option Bytes} (settled : perform.settle old changed = (.ok answer, next)) :
    changed = .ok next := by
  cases changed with
  | error error => cases settled
  | ok builder =>
    cases settled
    rfl

theorem append_closed (payload bytes : Bytes) (command : Command)
    (written : Wire.encode command = .ok bytes) :
    (⟨payload, none⟩ : FrameBuilder).append command = .ok ⟨payload ++ bytes, none⟩ := by
  simp only [append, checkFilled, written]
  rfl

theorem append_error {builder : FrameBuilder} {command : Command} {bytes : Bytes} {error : Error}
    (written : Wire.encode command = .ok bytes) (refused : builder.append command = .error error) :
    ∃ space remaining, error = .incompleteControl space remaining := by
  obtain ⟨payload, openControl⟩ := builder
  cases openControl with
  | none =>
    rw [append_closed payload bytes command written] at refused
    cases refused
  | some block =>
    cases refused
    exact ⟨block.space, block.remaining, rfl⟩

theorem begin_control_ok {builder next : FrameBuilder} {space : SpaceId} {length : UInt32}
    (accepted : builder.beginControl space length = .ok next) :
    builder.openControl = none ∧ next.payload = builder.payload ++ controlHeader space length := by
  obtain ⟨payload, openControl⟩ := builder
  obtain ⟨_, filled, accepted⟩ := Wire.except_bind_ok accepted
  cases openControl with
  | some block => cases filled
  | none =>
    cases accepted
    exact ⟨rfl, rfl⟩

theorem put_control_ok {builder next : FrameBuilder} {flags : TileFlags}
    (accepted : builder.putControl flags = .ok next) :
    builder.openControl ≠ none ∧ next.payload = builder.payload ++ [flags.bits] := by
  obtain ⟨payload, openControl⟩ := builder
  cases openControl with
  | none => cases accepted
  | some block =>
    cases accepted
    exact ⟨by simp, rfl⟩

theorem finish_cases (payload : Bytes) :
    2 ^ 32 ≤ payload.length ∧
        (⟨payload, none⟩ : FrameBuilder).finish = .error (.tooManyItems "frame bytes" payload.length) ∨
      payload.length < 2 ^ 32 ∧
        (⟨payload, none⟩ : FrameBuilder).finish = .ok (frameOf payload, empty) := by
  by_cases small : payload.length < 2 ^ 32
  · right
    have counted : Wire.writeCount headerLength "frame bytes" payload.length =
        .ok (Bytes.bigEndian headerLength payload.length) := if_pos small
    simp only [finish, checkFilled, counted]
    exact ⟨small, rfl⟩
  · left
    have refused : Wire.writeCount headerLength "frame bytes" payload.length =
        .error (.tooManyItems "frame bytes" payload.length) := if_neg small
    simp only [finish, checkFilled, refused]
    exact ⟨Nat.not_lt.mp small, rfl⟩

end FrameBuilder

namespace Recorder

open Journal

variable {σ : Type}

structure Clean (recorder : Recorder σ) : Prop where
  current : recorder.current = none
  frame : recorder.frame = .empty
  names : recorder.namesInFrame = false

def Tidy (recorder : Recorder σ) : Prop := recorder.current = none → recorder.Clean

theorem discard_clean (recorder : Recorder σ) : recorder.discard.Clean := ⟨rfl, rfl, rfl⟩

theorem check_open_ok {recorder : Recorder σ} {space : SpaceId}
    (checked : recorder.checkOpen space = .ok ()) : recorder.current = some space := by
  unfold checkOpen at checked
  split at checked
  · rename_i current is
    split at checked
    · rename_i same
      rw [is, same]
    · cases checked
  · cases checked

theorem check_open_error {recorder : Recorder σ} {space : SpaceId} {error : Error}
    (checked : recorder.checkOpen space = .error error) :
    error.isTransport = false ∧ dropped (.error error) = false := by
  unfold checkOpen at checked
  split at checked
  · split at checked
    · cases checked
    · cases checked
      exact ⟨rfl, rfl⟩
  · cases checked
    exact ⟨rfl, rfl⟩

theorem write_for_cases (recorder : Recorder σ) (space : SpaceId)
    (changed : Except Error FrameBuilder) :
    (∃ error, recorder.writeFor space changed = (.error error, recorder) ∧
      (recorder.checkOpen space = .error error ∨ changed = .error error)) ∨
    (∃ frame, changed = .ok frame ∧ recorder.current = some space ∧
      recorder.writeFor space changed = (.ok (), { recorder with frame })) := by
  unfold writeFor
  split
  · rename_i error checked
    exact .inl ⟨error, rfl, .inl checked⟩
  · rename_i checked
    cases changed with
    | error error => exact .inl ⟨error, rfl, .inr rfl⟩
    | ok frame => exact .inr ⟨frame, rfl, check_open_ok checked, rfl⟩

theorem perform_append {builder next : FrameBuilder} {command : Command}
    (accepted : builder.append command = .ok next) :
    builder.perform (.append command) = (.ok none, next) := by
  rw [FrameBuilder.perform, accepted]
  rfl

theorem perform_begin_control {builder next : FrameBuilder} {space : SpaceId} {length : UInt32}
    (accepted : builder.beginControl space length = .ok next) :
    builder.perform (.beginControl space length) = (.ok none, next) := by
  rw [FrameBuilder.perform, accepted]
  rfl

theorem perform_put_control {builder next : FrameBuilder} {flags : TileFlags}
    (accepted : builder.putControl flags = .ok next) :
    builder.perform (.putControl flags) = (.ok none, next) := by
  rw [FrameBuilder.perform, accepted]
  rfl

theorem begin_space_cases (recorder : Recorder σ) (event : EventId) (space : SpaceId)
    (tileCount : UInt32) :
    (∃ error, recorder.beginSpace event space tileCount = (.error error, recorder)) ∨
    (∃ frame, recorder.current = none ∧
      recorder.frame.append (.spaceBegin space event tileCount) = .ok frame ∧
      recorder.beginSpace event space tileCount =
        (.ok (), { recorder with frame, current := some space, namesInFrame := false })) := by
  unfold beginSpace
  split
  · exact .inl ⟨_, rfl⟩
  · rename_i idle
    split
    · exact .inl ⟨_, rfl⟩
    · rename_i frame accepted
      exact .inr ⟨frame, idle, accepted, rfl⟩

def Wrote (recorder : Recorder σ) (write : FrameBuilder.Call) (frame : FrameBuilder) : Prop :=
  recorder.frame.perform write = (.ok none, frame) ∧
    ((∃ space, recorder.current = some space ∧ write.TellsOf space) ∨
      (recorder.frame.openControl ≠ none ∧ ∀ space, write.TellsOf space))

theorem write_for_wrote (recorder : Recorder σ) (space : SpaceId) (write : FrameBuilder.Call)
    {changed : Except Error FrameBuilder} (tells : write.TellsOf space)
    (performs : ∀ frame, changed = .ok frame → recorder.frame.perform write = (.ok none, frame)) :
    (∃ error, recorder.writeFor space changed = (.error error, recorder)) ∨
    (∃ frame, recorder.writeFor space changed = (.ok (), { recorder with frame }) ∧
      recorder.Wrote write frame) := by
  rcases write_for_cases recorder space changed with ⟨error, refused, _⟩ | ⟨frame, accepted, is, done⟩
  · exact .inl ⟨error, refused⟩
  · exact .inr ⟨frame, done, performs frame accepted, .inl ⟨space, is, tells⟩⟩

variable [Sink σ]

theorem frame_of_cons (payload : Bytes) : ∃ byte bytes, frameOf payload = byte :: bytes := by
  cases framed : frameOf payload with
  | nil =>
    have long := frame_of_length payload
    rw [framed, List.length_nil] at long
    omega
  | cons byte bytes => exact ⟨byte, bytes, rfl⟩

theorem flush_frame_cases (view : SinkView σ) (recorder : Recorder σ)
    (usable : view.valid recorder.sink) (closed : recorder.frame.openControl = none) :
    (2 ^ 32 ≤ recorder.frame.payload.length ∧
      recorder.flushFrame =
        (.error (.tooManyItems "frame bytes" recorder.frame.payload.length), recorder)) ∨
    (∃ length limit, recorder.flushFrame =
      (.error (.frameTooLarge length limit), { recorder with frame := .empty })) ∨
    (∃ outcome sink, recorder.flushFrame = (outcome, { recorder with frame := .empty, sink }) ∧
      handedOver outcome = true ∧ FitsFrame recorder.frameLimit recorder.frame.payload ∧
      view.valid sink ∧ (view.Reliable → outcome = .ok ()) ∧
      view.Gave recorder.sink sink (frameOf recorder.frame.payload)
        (failedInTransport outcome = true)) := by
  obtain ⟨sink, ⟨payload, openControl⟩, current, named, namesInFrame, frameLimit, counts,
    compensation, timer⟩ := recorder
  change openControl = none at closed
  subst closed
  rcases FrameBuilder.finish_cases payload with ⟨large, refused⟩ | ⟨small, finished⟩
  · left
    refine ⟨large, ?_⟩
    simp only [flushFrame, refused]
  right
  have length : (frameOf payload).length - FrameBuilder.headerLength = payload.length := by
    rw [frame_of_length, FrameBuilder.headerLength]
    omega
  by_cases long : frameLimit < payload.length
  · left
    refine ⟨payload.length, frameLimit, ?_⟩
    simp only [flushFrame, finished, length, if_pos long]
  right
  obtain ⟨byte, bytes, framed⟩ := frame_of_cons payload
  obtain ⟨usableAfter, ended, gave⟩ := view.write_all_gives sink byte bytes usable
  rw [← framed] at usableAfter ended gave
  simp only [flushFrame, finished, length, if_neg long]
  have fits : FitsFrame frameLimit payload := ⟨Nat.not_lt.mp long, small⟩
  cases written : Sink.writeAll sink (frameOf payload) with
  | mk outcome next =>
    rw [written] at usableAfter ended gave
    cases outcome with
    | error cause =>
      refine ⟨.error (.transport cause), next, rfl, rfl, fits, usableAfter, fun reliable => ?_, ?_⟩
      · rcases ended with done | spent
        · cases done
        · exact absurd spent (reliable.unspent next usableAfter)
      · cases gave with
        | whole fresh taken => exact .whole fresh taken
        | front _ front part spent taken late => exact .front rfl front part spent taken late
    | ok done =>
      have flushedValid := view.flush_valid next usableAfter
      have flushedTaken := view.flush_taken next usableAfter
      have gaveFlushed : ∀ failed, view.Gave sink (Sink.flush next).2 (frameOf payload) failed := by
        intro failed
        cases gave with
        | whole fresh taken => exact .whole fresh (flushedTaken.trans taken)
        | front because => exact absurd rfl because
      dsimp only
      cases flushed : Sink.flush next with
      | mk outcome final =>
        rw [flushed] at flushedValid gaveFlushed
        cases outcome with
        | error cause =>
          refine ⟨.error (.transport cause), final, rfl, rfl, fits, flushedValid, fun reliable => ?_,
            gaveFlushed _⟩
          have fine := reliable.flushes next usableAfter
          rw [flushed] at fine
          cases fine
        | ok done =>
          exact ⟨.ok (), final, rfl, rfl, fits, flushedValid, fun _ => rfl, gaveFlushed _⟩

theorem flush_frame_settles (recorder : Recorder σ) (closed : recorder.frame.openControl = none) :
    (handedOver recorder.flushFrame.1 || dropped recorder.flushFrame.1) = true := by
  have finished := FrameBuilder.finish_cases recorder.frame.payload
  rw [← closed] at finished
  rcases finished with ⟨_, large⟩ | ⟨_, whole⟩
  · rw [flushFrame, large]
    rfl
  · simp only [flushFrame, whole]
    split
    · rfl
    split
    · rfl
    split <;> rfl

-- A write of the report is refused, or it changes the frame alone and is for the open space. An
-- entry names no space: it goes to the block that is open.
theorem write_cases (recorder : Recorder σ) {call : ReportCall} {write : FrameBuilder.Call}
    (named : call.write? = some write) :
    (∃ error, recorder.perform call = (.error error, recorder)) ∨
    (∃ frame namesInFrame,
      recorder.perform call = (.ok (), { recorder with frame, namesInFrame }) ∧
      recorder.Wrote write frame) := by
  have kept {space : SpaceId} {changed : Except Error FrameBuilder} (tells : write.TellsOf space)
      (performs : ∀ frame, changed = .ok frame → recorder.frame.perform write = (.ok none, frame)) :
      (∃ error, recorder.writeFor space changed = (.error error, recorder)) ∨
      (∃ frame namesInFrame,
        recorder.writeFor space changed = (.ok (), { recorder with frame, namesInFrame }) ∧
        recorder.Wrote write frame) := by
    rcases write_for_wrote recorder space write tells performs with refused | ⟨frame, done, wrote⟩
    · exact .inl refused
    · exact .inr ⟨frame, recorder.namesInFrame, done, wrote⟩
  cases call with
  | tileNames space names =>
    cases named
    simp only [perform, writeTileNames]
    rcases write_for_wrote recorder space (.append (.tileNames space names)) rfl
      fun _ => perform_append with ⟨error, refused⟩ | ⟨frame, done, wrote⟩
    · rw [refused]
      exact .inl ⟨error, rfl⟩
    · rw [done]
      exact .inr ⟨frame, true, rfl, wrote⟩
  | streamData space stream kind values =>
    cases named
    exact kept rfl fun _ => perform_append
  | control space length =>
    cases named
    exact kept rfl fun _ => perform_begin_control
  | putControl flags =>
    cases named
    simp only [perform]
    cases accepted : recorder.frame.putControl flags with
    | error error => exact .inl ⟨error, rfl⟩
    | ok frame =>
      have filling := (FrameBuilder.put_control_ok accepted).1
      exact .inr ⟨frame, recorder.namesInFrame, rfl, perform_put_control accepted,
        .inr ⟨filling, fun _ => trivial⟩⟩
  | summary space stream values =>
    cases named
    exact kept rfl fun _ => perform_append
  | spaceInfo space info =>
    cases named
    exact kept rfl fun _ => perform_append
  | beginSpace | endSpace | safepoint | startTimer | stopTimer => cases named

theorem end_space_cases (recorder : Recorder σ) (space : SpaceId) :
    (∃ error, error.isTransport = false ∧ dropped (.error error) = false ∧
      recorder.endSpace space = (.error error, recorder)) ∨
    (∃ frame, recorder.current = some space ∧ recorder.frame.append (.spaceEnd space) = .ok frame ∧
      ∃ named, recorder.endSpace space =
        ((flushFrame { recorder with frame, current := none, namesInFrame := false }).1,
          { (flushFrame { recorder with frame, current := none, namesInFrame := false }).2 with
            named })) := by
  simp only [endSpace]
  rcases write_for_cases recorder space (recorder.frame.append (.spaceEnd space)) with
    ⟨error, refused, because⟩ | ⟨frame, accepted, is, changed⟩
  · left
    rw [refused]
    refine ⟨error, ?_⟩
    rcases because with closed | unfilled
    · exact ⟨(check_open_error closed).1, (check_open_error closed).2, rfl⟩
    · obtain ⟨block, remaining, rfl⟩ := FrameBuilder.append_error rfl unfilled
      exact ⟨rfl, rfl, rfl⟩
  · right
    rw [changed]
    refine ⟨frame, is, accepted, ?_⟩
    dsimp only
    cases flushFrame { recorder with frame, current := none, namesInFrame := false } with
    | mk outcome next =>
      cases outcome with
      | error error => exact ⟨next.named, rfl⟩
      | ok done =>
        cases recorder.namesInFrame with
        | false => exact ⟨next.named, rfl⟩
        | true => exact ⟨space :: next.named, rfl⟩

theorem safepoint_cases (recorder : Recorder σ) (event : EventId)
    (idle : recorder.current = none → recorder.frame.openControl = none) :
    (∃ current, recorder.current = some current ∧
      recorder.safepoint event = (.error (.safepointInsideSpace event current), recorder)) ∨
    (recorder.current = none ∧ ∃ frame counts,
      recorder.frame.append (.safepoint event
        (UInt32.ofNat (min (recorder.eventCount event + 1) largestCount)) recorder.compensation) =
          .ok frame ∧
      recorder.safepoint event = flushFrame { recorder with frame, counts }) := by
  obtain ⟨sink, ⟨payload, openControl⟩, current, named, namesInFrame, frameLimit, counts,
    compensation, timer⟩ := recorder
  cases current with
  | some current => exact .inl ⟨current, rfl, rfl⟩
  | none =>
    have closed : openControl = none := idle rfl
    subst closed
    exact .inr ⟨rfl, _, _, rfl, rfl⟩

theorem flush_keeps (recorder : Recorder σ) :
    ∃ sink frame, recorder.flushFrame.2 = { recorder with sink, frame } := by
  unfold flushFrame
  split
  · exact ⟨_, _, rfl⟩
  dsimp only
  split
  · exact ⟨_, _, rfl⟩
  split
  · exact ⟨_, _, rfl⟩
  split <;> exact ⟨_, _, rfl⟩

theorem flush_frame_named (recorder : Recorder σ) : recorder.flushFrame.2.named = recorder.named := by
  obtain ⟨sink, frame, flushed⟩ := flush_keeps recorder
  rw [flushed]

theorem end_space_refused_named (recorder : Recorder σ) (space : SpaceId) (error : Error)
    (refused : (recorder.endSpace space).1 = .error error) :
    (recorder.endSpace space).2.named = recorder.named := by
  simp only [endSpace] at refused ⊢
  rcases write_for_cases recorder space (recorder.frame.append (.spaceEnd space)) with
    ⟨error, failed, _⟩ | ⟨frame, _, _, changed⟩
  · rw [failed]
  · have named := flush_frame_named { recorder with frame, current := none, namesInFrame := false }
    rw [changed] at refused ⊢
    dsimp only at refused ⊢
    cases flushed : flushFrame { recorder with frame, current := none, namesInFrame := false } with
    | mk outcome next =>
      rw [flushed] at refused named
      cases outcome with
      | error error => exact named
      | ok done => cases refused

theorem write_named (recorder : Recorder σ) {call : ReportCall} {write : FrameBuilder.Call}
    (writes : call.write? = some write) : (recorder.perform call).2.named = recorder.named := by
  rcases write_cases recorder writes with ⟨error, refused⟩ | ⟨frame, namesInFrame, accepted, _⟩
  · rw [refused]
  · rw [accepted]

omit [Sink σ] in
theorem begin_space_named (recorder : Recorder σ) (event : EventId) (space : SpaceId)
    (tileCount : UInt32) : (recorder.beginSpace event space tileCount).2.named = recorder.named := by
  rcases begin_space_cases recorder event space tileCount with ⟨error, refused⟩ | ⟨frame, _, _, begun⟩
  · rw [refused]
  · rw [begun]

omit [Sink σ] in
theorem begin_space_asks (recorder : Recorder σ) (event : EventId) (space : SpaceId)
    (tileCount : UInt32) (other : SpaceId) :
    (recorder.beginSpace event space tileCount).2.needsTileNames other =
      recorder.needsTileNames other := by
  rw [needsTileNames, begin_space_named, needsTileNames]

omit [Sink σ] in
theorem stop_timer_named (recorder : Recorder σ) (now : Duration) :
    (recorder.stopTimer now).named = recorder.named := by
  unfold stopTimer
  split <;> rfl

theorem send_shutdown_eq (recorder : Recorder σ) :
    recorder.sendShutdown = flushFrame { recorder.discard with frame := ⟨[0x0b], none⟩ } := rfl

end Recorder

end HeapScope
