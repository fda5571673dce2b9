import HeapScope.Proofs.Report.Outcomes

namespace HeapScope

-- A write has failed when it took nothing, with an error or without one.
structure Watched (σ : Type) where
  sink : σ
  failed : Bool

instance {σ : Type} [Sink σ] : Sink (Watched σ) where
  write watched bytes :=
    let (outcome, sink) := Sink.write watched.sink bytes
    (outcome, ⟨sink, watched.failed || Sink.progress outcome = 0⟩)
  flush watched :=
    let (outcome, sink) := Sink.flush watched.sink
    (outcome, ⟨sink, watched.failed⟩)

variable {σ : Type} [Sink σ]

-- The sink that is watched is used up if a write has failed.
def SinkView.watched (view : SinkView σ) : SinkView (Watched σ) where
  taken watched := view.taken watched.sink
  valid watched := view.valid watched.sink
  spent watched := view.spent watched.sink ∧ watched.failed = true
  write_valid watched := view.write_valid watched.sink
  write_taken watched := view.write_taken watched.sink
  write_stops watched byte bytes usable stopped :=
    ⟨view.write_stops watched.sink byte bytes usable stopped,
      (Bool.or_eq_true _ _).mpr (.inr (decide_eq_true stopped))⟩
  write_spent watched bytes usable spent := view.write_spent watched.sink bytes usable spent.1
  flush_valid watched := view.flush_valid watched.sink
  flush_taken watched := view.flush_taken watched.sink

theorem write_all_watched (watched : Watched σ) (bytes : Bytes) :
    Sink.writeAll watched.sink bytes =
      ((Sink.writeAll watched bytes).1, (Sink.writeAll watched bytes).2.sink) := by
  induction count : bytes.length using Nat.strongRecOn generalizing watched bytes with
  | ind total ih =>
    cases bytes with
    | nil => rw [Sink.writeAll, Sink.writeAll]
    | cons byte bytes =>
      rw [Sink.writeAll, Sink.writeAll]
      simp only [Sink.write]
      cases written : Sink.write watched.sink (byte :: bytes) with
      | mk outcome next =>
        cases outcome with
        | error cause => rfl
        | ok n =>
          cases n with
          | zero => rfl
          | succ n =>
            have shorter : (bytes.drop n).length < total := by
              rw [← count, List.length_drop, List.length_cons]
              omega
            exact ih _ shorter ⟨next, watched.failed || Sink.progress (.ok (n + 1)) = 0⟩ (bytes.drop n) rfl

namespace Recorder

def watched (recorder : Recorder σ) : Recorder (Watched σ) :=
  { recorder with sink := ⟨recorder.sink, false⟩ }

def writeFailed (recorder : Recorder σ) (actions : List Action) : Bool :=
  (recorder.watched.run actions).sink.failed

def unwatched (recorder : Recorder (Watched σ)) : Recorder σ :=
  { recorder with sink := recorder.sink.sink }

def bare (result : Except Error Unit × Recorder (Watched σ)) : Except Error Unit × Recorder σ :=
  (result.1, result.2.unwatched)

variable (recorder : Recorder (Watched σ))

omit [Sink σ] in
theorem write_unwatched (changed : Except Error FrameBuilder) :
    recorder.unwatched.write changed = bare (recorder.write changed) := by
  cases changed <;> rfl

omit [Sink σ] in
theorem write_for_unwatched (space : SpaceId) (changed : Except Error FrameBuilder) :
    recorder.unwatched.writeFor space changed = bare (recorder.writeFor space changed) := by
  have same : recorder.unwatched.checkOpen space = recorder.checkOpen space := rfl
  rw [writeFor, writeFor, same]
  cases recorder.checkOpen space with
  | error error => rfl
  | ok opened => exact recorder.write_unwatched changed

theorem flush_frame_unwatched : recorder.unwatched.flushFrame = bare recorder.flushFrame := by
  have frame : recorder.unwatched.frame = recorder.frame := rfl
  have limit : recorder.unwatched.frameLimit = recorder.frameLimit := rfl
  have sink : recorder.unwatched.sink = recorder.sink.sink := rfl
  rw [flushFrame, flushFrame, frame]
  cases recorder.frame.finish with
  | error error => rfl
  | ok finished =>
    obtain ⟨bytes, next⟩ := finished
    dsimp only
    rw [limit, sink, write_all_watched]
    split
    · rfl
    · cases Sink.writeAll recorder.sink bytes with
      | mk outcome watched =>
        cases outcome with
        | error cause => rfl
        | ok done =>
          dsimp only
          have flushed : Sink.flush watched =
              ((Sink.flush watched.sink).1, ⟨(Sink.flush watched.sink).2, watched.failed⟩) := rfl
          rw [flushed]
          cases Sink.flush watched.sink with
          | mk outcome next => cases outcome <;> rfl

theorem end_space_unwatched (space : SpaceId) :
    recorder.unwatched.endSpace space = bare (recorder.endSpace space) := by
  have frame : recorder.unwatched.frame = recorder.frame := rfl
  rw [endSpace, endSpace, frame, write_for_unwatched]
  cases recorder.writeFor space (recorder.frame.append (.spaceEnd space)) with
  | mk outcome next =>
    cases outcome with
    | error error => rfl
    | ok done =>
      have flushed := flush_frame_unwatched { next with current := none, namesInFrame := false }
      dsimp only [bare]
      have same : { next.unwatched with current := none, namesInFrame := false } =
        unwatched { next with current := none, namesInFrame := false } := rfl
      rw [same, flushed]
      cases flushFrame { next with current := none, namesInFrame := false } with
      | mk outcome last =>
        cases outcome with
        | error error => rfl
        | ok done =>
          have names : next.unwatched.namesInFrame = next.namesInFrame := rfl
          simp only [bare, names]
          cases next.namesInFrame <;> rfl

theorem safepoint_unwatched (event : EventId) :
    recorder.unwatched.safepoint event = bare (recorder.safepoint event) := by
  obtain ⟨sink, frame, current, named, namesInFrame, frameLimit, counts, compensation, timer⟩ := recorder
  cases current with
  | some space => rfl
  | none =>
    simp only [safepoint, unwatched, eventCount, write]
    cases frame.append _ with
    | error error => rfl
    | ok filled =>
      exact flush_frame_unwatched
        ⟨sink, filled, none, named, namesInFrame, frameLimit, _, compensation, timer⟩

theorem send_shutdown_unwatched :
    recorder.unwatched.sendShutdown = bare recorder.sendShutdown := by
  rw [send_shutdown_eq, send_shutdown_eq]
  exact flush_frame_unwatched { recorder.discard with frame := ⟨[0x0b], none⟩ }

omit [Sink σ] in
theorem begin_space_unwatched (event : EventId) (space : SpaceId) (tileCount : UInt32) :
    recorder.unwatched.beginSpace event space tileCount =
      bare (recorder.beginSpace event space tileCount) := by
  have current : recorder.unwatched.current = recorder.current := rfl
  have frame : recorder.unwatched.frame = recorder.frame := rfl
  rw [beginSpace, beginSpace, current, frame]
  cases recorder.current with
  | some space => rfl
  | none => cases recorder.frame.append (.spaceBegin space event tileCount) <;> rfl

omit [Sink σ] in
theorem tile_names_unwatched (space : SpaceId) (names : List String) :
    recorder.unwatched.writeTileNames space names = bare (recorder.writeTileNames space names) := by
  have frame : recorder.unwatched.frame = recorder.frame := rfl
  rw [writeTileNames, writeTileNames, frame, write_for_unwatched]
  cases recorder.writeFor space (recorder.frame.append (.tileNames space names)) with
  | mk outcome next => cases outcome <;> rfl

theorem act_unwatched (action : Action) :
    recorder.unwatched.act action = bare (recorder.act action) := by
  cases action with
  | report call =>
    cases call with
    | beginSpace event space tileCount => exact recorder.begin_space_unwatched event space tileCount
    | tileNames space names => exact recorder.tile_names_unwatched space names
    | endSpace space => exact recorder.end_space_unwatched space
    | safepoint event => exact recorder.safepoint_unwatched event
    | streamData | control | summary | spaceInfo => exact recorder.write_for_unwatched _ _
    | putControl flags => exact recorder.write_unwatched _
    | startTimer now => rfl
    | stopTimer now =>
      change (.ok (), recorder.unwatched.stopTimer now) = bare (.ok (), recorder.stopTimer now)
      have timer : recorder.unwatched.timer = recorder.timer := rfl
      rw [stopTimer, stopTimer, timer]
      cases recorder.timer <;> rfl
  | discard => rfl
  | shutdown => exact recorder.send_shutdown_unwatched
  | addCompensation length => rfl

end Recorder

namespace Chronicle

theorem run_unwatched (actions : List Recorder.Action) (chronicle : Chronicle (Watched σ)) :
    actions.foldl after ⟨chronicle.recorder.unwatched, chronicle.journal⟩ =
      ⟨(actions.foldl after chronicle).recorder.unwatched, (actions.foldl after chronicle).journal⟩ := by
  induction actions generalizing chronicle with
  | nil => rfl
  | cons action actions ih =>
    have same := chronicle.recorder.act_unwatched action
    have step : after ⟨chronicle.recorder.unwatched, chronicle.journal⟩ action =
        ⟨(chronicle.after action).recorder.unwatched, (chronicle.after action).journal⟩ := by
      simp only [after, Journal.after, same]
      rfl
    rw [List.foldl_cons, List.foldl_cons, step, ih]

end Chronicle

end HeapScope
