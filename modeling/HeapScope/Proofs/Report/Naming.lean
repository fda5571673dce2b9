import HeapScope.Proofs.Report.Outcomes

namespace HeapScope

namespace Recorder

variable {σ : Type} [Sink σ] {recorder : Recorder σ}

-- All but the spaces whose names have been sent: what is written does not depend on them.
def unnamed (recorder : Recorder σ) : Recorder σ := { recorder with named := [] }

theorem flush_unnamed (recorder : Recorder σ) :
    recorder.unnamed.flushFrame = (recorder.flushFrame.1, recorder.flushFrame.2.unnamed) := by
  simp only [flushFrame, unnamed]
  cases recorder.frame.finish with
  | error error => rfl
  | ok finished =>
    obtain ⟨bytes, next⟩ := finished
    dsimp only
    by_cases long : recorder.frameLimit < bytes.length - FrameBuilder.headerLength
    · simp only [long, ↓reduceIte]
    · simp only [long, ↓reduceIte]
      cases Sink.writeAll recorder.sink bytes with
      | mk outcome sink =>
        cases outcome with
        | error cause => rfl
        | ok done =>
          dsimp only
          cases Sink.flush sink with
          | mk outcome sink =>
            cases outcome with
            | error cause => rfl
            | ok done => rfl

omit [Sink σ] in
theorem write_unnamed (recorder : Recorder σ) (changed : Except Error FrameBuilder) :
    recorder.unnamed.write changed =
      ((recorder.write changed).1, (recorder.write changed).2.unnamed) := by
  cases changed with
  | error error => rfl
  | ok frame => rfl

omit [Sink σ] in
theorem write_for_unnamed (recorder : Recorder σ) (space : SpaceId)
    (changed : Except Error FrameBuilder) :
    recorder.unnamed.writeFor space changed =
      ((recorder.writeFor space changed).1, (recorder.writeFor space changed).2.unnamed) := by
  have same : recorder.unnamed.checkOpen space = recorder.checkOpen space := rfl
  unfold writeFor
  rw [same]
  cases recorder.checkOpen space with
  | error error => rfl
  | ok done => exact write_unnamed recorder changed

omit [Sink σ] in
theorem begin_space_unnamed (recorder : Recorder σ) (event : EventId) (space : SpaceId)
    (tileCount : UInt32) :
    recorder.unnamed.beginSpace event space tileCount =
      ((recorder.beginSpace event space tileCount).1,
        (recorder.beginSpace event space tileCount).2.unnamed) := by
  obtain ⟨sink, frame, current, named, namesInFrame, limit, counts, compensation, timer⟩ := recorder
  simp only [beginSpace, unnamed]
  cases current with
  | some current => rfl
  | none =>
    cases frame.append (.spaceBegin space event tileCount) with
    | error error => rfl
    | ok frame => rfl

omit [Sink σ] in
theorem tile_names_unnamed (recorder : Recorder σ) (space : SpaceId) (names : List String) :
    recorder.unnamed.writeTileNames space names =
      ((recorder.writeTileNames space names).1, (recorder.writeTileNames space names).2.unnamed) := by
  have same : recorder.unnamed.frame = recorder.frame := rfl
  unfold writeTileNames
  rw [same, write_for_unnamed]
  cases recorder.writeFor space (recorder.frame.append (.tileNames space names)) with
  | mk outcome next => cases outcome <;> rfl

theorem end_space_unnamed (recorder : Recorder σ) (space : SpaceId) :
    (recorder.unnamed.endSpace space).1 = (recorder.endSpace space).1 ∧
      (recorder.unnamed.endSpace space).2.unnamed = (recorder.endSpace space).2.unnamed := by
  have same : recorder.unnamed.frame = recorder.frame := rfl
  unfold endSpace
  rw [same, write_for_unnamed]
  cases recorder.writeFor space (recorder.frame.append (.spaceEnd space)) with
  | mk outcome next =>
    cases outcome with
    | error error => exact ⟨rfl, rfl⟩
    | ok done =>
      have flushed := flush_unnamed { next with current := none, namesInFrame := false }
      simp only [unnamed] at flushed ⊢
      rw [flushed]
      cases flushFrame { next with current := none, namesInFrame := false } with
      | mk outcome last =>
        cases outcome with
        | error error => exact ⟨rfl, rfl⟩
        | ok done =>
          by_cases names : next.namesInFrame
          · simp only [names, ↓reduceIte, and_self]
          · simp only [names, Bool.false_eq_true, ↓reduceIte, and_self]

omit [Sink σ] in
theorem stop_timer_unnamed (recorder : Recorder σ) (now : Duration) :
    recorder.unnamed.stopTimer now = (recorder.stopTimer now).unnamed := by
  obtain ⟨sink, frame, current, named, namesInFrame, limit, counts, compensation, timer⟩ := recorder
  simp only [stopTimer, unnamed]
  cases timer with
  | none => rfl
  | some started => rfl

def writeOut (recorder : Recorder σ) (changed : Except Error FrameBuilder) :
    Except Error Unit × Recorder σ :=
  match recorder.write changed with
  | (.error error, recorder) => (.error error, recorder)
  | (.ok (), recorder) => recorder.flushFrame

theorem write_out_unnamed (recorder : Recorder σ) (changed : Except Error FrameBuilder) :
    recorder.unnamed.writeOut changed =
      ((recorder.writeOut changed).1, (recorder.writeOut changed).2.unnamed) := by
  cases changed with
  | error error => rfl
  | ok frame => exact flush_unnamed { recorder with frame }

def counted (recorder : Recorder σ) (event : EventId) : Recorder σ :=
  { recorder with
    counts := recorder.counts.insert event (min (recorder.eventCount event + 1) largestCount) }

theorem safepoint_idle (idle : recorder.current = none) (event : EventId) :
    recorder.safepoint event = (recorder.counted event).writeOut (recorder.frame.append (.safepoint event
      (UInt32.ofNat (min (recorder.eventCount event + 1) largestCount)) recorder.compensation)) := by
  obtain ⟨sink, frame, current, named, namesInFrame, limit, counts, compensation, timer⟩ := recorder
  cases idle
  rfl

theorem safepoint_unnamed (recorder : Recorder σ) (event : EventId) :
    recorder.unnamed.safepoint event =
      ((recorder.safepoint event).1, (recorder.safepoint event).2.unnamed) := by
  cases idle : recorder.current with
  | some current => simp only [safepoint, unnamed, idle]
  | none =>
    have unnamedIdle : recorder.unnamed.current = none := idle
    rw [safepoint_idle unnamedIdle, safepoint_idle idle]
    exact write_out_unnamed (recorder.counted event) _

theorem act_unnamed (recorder : Recorder σ) (action : Action) :
    (recorder.unnamed.act action).1 = (recorder.act action).1 ∧
      (recorder.unnamed.act action).2.unnamed = (recorder.act action).2.unnamed := by
  have same {result other : Except Error Unit × Recorder σ} (is : result = (other.1, other.2.unnamed)) :
      result.1 = other.1 ∧ result.2.unnamed = other.2.unnamed := by
    rw [is]
    exact ⟨rfl, rfl⟩
  cases action with
  | report call =>
    cases call with
    | beginSpace event space tileCount => exact same (begin_space_unnamed recorder event space tileCount)
    | tileNames space names => exact same (tile_names_unnamed recorder space names)
    | streamData space stream kind values => exact same (write_for_unnamed recorder space _)
    | control space length => exact same (write_for_unnamed recorder space _)
    | putControl flags => exact same (write_unnamed recorder _)
    | summary space stream values => exact same (write_for_unnamed recorder space _)
    | spaceInfo space info => exact same (write_for_unnamed recorder space _)
    | endSpace space => exact end_space_unnamed recorder space
    | safepoint event => exact same (safepoint_unnamed recorder event)
    | startTimer now => exact ⟨rfl, rfl⟩
    | stopTimer now => exact same (congrArg (Prod.mk _) (stop_timer_unnamed recorder now))
  | discard => exact ⟨rfl, rfl⟩
  | shutdown => exact same (flush_unnamed { recorder.discard with frame := ⟨[0x0b], none⟩ })
  | addCompensation length => exact ⟨rfl, rfl⟩

def answers (recorder : Recorder σ) : List Action → List (Except Error Unit)
  | [] => []
  | action :: actions => (recorder.act action).1 :: (recorder.act action).2.answers actions

theorem alike_goes_on {other : Recorder σ} (alike : recorder.unnamed = other.unnamed)
    (further : List Action) :
    recorder.answers further = other.answers further ∧
      (recorder.run further).unnamed = (other.run further).unnamed := by
  induction further generalizing recorder other with
  | nil => exact ⟨rfl, alike⟩
  | cons action further ih =>
    obtain ⟨answer, next⟩ := act_unnamed recorder action
    obtain ⟨otherAnswer, otherNext⟩ := act_unnamed other action
    rw [alike] at answer next
    obtain ⟨answers, last⟩ := ih (next.symm.trans otherNext)
    refine ⟨?_, last⟩
    rw [Recorder.answers, Recorder.answers, ← answer, otherAnswer, answers]

end Recorder

end HeapScope
