import HeapScope.Proofs.Report.Outcomes
import HeapScope.Proofs.Wire.Sizes

namespace HeapScope

structure OpenReport where
  space : SpaceId
  unfilled : Nat
  size : Nat
deriving DecidableEq, Repr

def Roomy (limit size : Nat) : Prop := size ≤ limit ∧ size < 2 ^ 32

instance (limit size : Nat) : Decidable (Roomy limit size) := inferInstanceAs (Decidable (_ ∧ _))

def Command.inRange : Command → Bool
  | .tileNames _ names => names.all (·.utf8ByteSize < 256 ^ 2)
  | .streamData _ _ kind values => values.all kind.holds
  | .spaceInfo _ info => info.utf8ByteSize < 256 ^ 2
  | .hello _ | .spaceDef _ => false
  | _ => true

def Command.counted : Command → Bool
  | .tileNames _ names => names.length < 256 ^ 4
  | .streamData _ _ _ values => values.length < 256 ^ 4
  | .control _ flags => flags.length < 256 ^ 4
  | .summary _ _ values => values.length < 256 ^ 4
  | _ => true

namespace OpenReport

def grow (report : OpenReport) (limit length : Nat) : Option OpenReport :=
  if Roomy limit (report.size + length) then some { report with size := report.size + length } else none

def write (report : OpenReport) (limit : Nat) (space : SpaceId) (command : Command) :
    Option OpenReport :=
  if report.space = space ∧ report.unfilled = 0 ∧ command.inRange then
    report.grow limit command.wireSize
  else none

end OpenReport

def conductAfter (limit events : Nat) (conduct : Option OpenReport) :
    ReportCall → Option (Option OpenReport)
  | .beginSpace event space tileCount =>
    if conduct = none ∧ event.index < events then
      (OpenReport.grow ⟨space, 0, 0⟩ limit (Command.spaceBegin space event tileCount).wireSize).map some
    else none
  | .tileNames space names =>
    conduct.bind fun report => (report.write limit space (.tileNames space names)).map some
  | .streamData space stream kind values =>
    conduct.bind fun report => (report.write limit space (.streamData space stream kind values)).map some
  | .control space length =>
    conduct.bind fun report =>
      (report.write limit space (.control space [])).map fun next =>
        some { next with unfilled := length.toNat }
  | .putControl _ =>
    conduct.bind fun report =>
      if report.unfilled = 0 then none
      else (report.grow limit 1).map fun next => some { next with unfilled := report.unfilled - 1 }
  | .summary space stream values =>
    conduct.bind fun report => (report.write limit space (.summary space stream values)).map some
  | .spaceInfo space info =>
    conduct.bind fun report => (report.write limit space (.spaceInfo space info)).map some
  | .endSpace space =>
    conduct.bind fun report => (report.write limit space (.spaceEnd space)).map fun _ => none
  | .safepoint event => if conduct = none ∧ event.index < events then some none else none
  | .startTimer _ | .stopTimer _ => some conduct

def Conforming (limit events : Nat) (calls : List ReportCall) : Prop :=
  (calls.foldlM (conductAfter limit events) none).isSome

instance (limit events : Nat) (calls : List ReportCall) : Decidable (Conforming limit events calls) :=
  inferInstanceAs (Decidable (_ = true))

namespace Wire

theorem write_each_accepts {write : α → Except Error Bytes} {items : List α}
    (each : ∀ item ∈ items, ∃ bytes, write item = .ok bytes) :
    ∃ bytes, writeEach write items = .ok bytes := by
  induction items with
  | nil => exact ⟨[], rfl⟩
  | cons item items ih =>
    obtain ⟨front, first⟩ := each item List.mem_cons_self
    obtain ⟨back, others⟩ := ih fun other member => each other (List.mem_cons_of_mem item member)
    refine ⟨front ++ back, ?_⟩
    rw [write_each_cons, first, others]
    rfl

theorem write_text_accepts {text : String} (small : text.utf8ByteSize < 256 ^ 2) :
    ∃ bytes, writeText text = .ok bytes :=
  ⟨_, if_pos small⟩

theorem names_counted (names : List String) : names.length ≤ (names.map textSize).sum := by
  induction names with
  | nil => exact Nat.le_refl 0
  | cons name names ih =>
    rw [List.map_cons, List.sum_cons, List.length_cons, textSize]
    omega

theorem small_counted {command : Command} (small : command.wireSize < 2 ^ 32) :
    command.counted = true := by
  cases command with
  | tileNames space names =>
    have counted := names_counted names
    rw [Command.wireSize] at small
    exact decide_eq_true (show names.length < 256 ^ 4 by omega)
  | streamData space stream kind values =>
    have wide : values.length ≤ values.length * kind.width :=
      Nat.le_mul_of_pos_right _ (by cases kind <;> decide)
    rw [Command.wireSize] at small
    exact decide_eq_true (show values.length < 256 ^ 4 by omega)
  | control space flags =>
    rw [Command.wireSize] at small
    exact decide_eq_true (show flags.length < 256 ^ 4 by omega)
  | summary space stream values =>
    rw [Command.wireSize] at small
    exact decide_eq_true (show values.length < 256 ^ 4 by omega)
  | _ => rfl

theorem encode_accepts {command : Command} (inRange : command.inRange = true)
    (counted : command.counted = true) : ∃ bytes, encode command = .ok bytes := by
  cases command with
  | hello info => cases inRange
  | spaceDef space => cases inRange
  | tileNames space names =>
    have texts : ∀ name ∈ names, ∃ bytes, writeText name = .ok bytes := by
      intro name member
      exact write_text_accepts (of_decide_eq_true (List.all_eq_true.mp inRange name member))
    obtain ⟨body, written⟩ := write_each_accepts texts
    have count := write_count_accepts "tile names" (of_decide_eq_true counted)
    exact ⟨_, by simp only [encode, writeFields, count, written]; rfl⟩
  | streamData space stream kind values =>
    have held : ∀ value ∈ values, ∃ bytes, writeValue kind value = .ok bytes := by
      intro value member
      exact ⟨_, if_pos (List.all_eq_true.mp inRange value member)⟩
    obtain ⟨body, written⟩ := write_each_accepts held
    have count := write_count_accepts "stream values" (of_decide_eq_true counted)
    exact ⟨_, by simp only [encode, writeFields, count, written]; rfl⟩
  | control space flags =>
    have count := write_count_accepts "control block" (of_decide_eq_true counted)
    exact ⟨_, by simp only [encode, writeFields, count]; rfl⟩
  | summary space stream values =>
    have count := write_count_accepts "summary values" (of_decide_eq_true counted)
    exact ⟨_, by simp only [encode, writeFields, count]; rfl⟩
  | spaceInfo space info =>
    obtain ⟨text, written⟩ := write_text_accepts (of_decide_eq_true inRange)
    exact ⟨_, by simp only [encode, writeFields, written]; rfl⟩
  | _ => exact ⟨_, rfl⟩

end Wire

namespace OpenReport

theorem grow_some {report next : OpenReport} {limit length : Nat}
    (grown : report.grow limit length = some next) :
    Roomy limit (report.size + length) ∧ next = { report with size := report.size + length } := by
  unfold grow at grown
  split at grown
  · rename_i roomy
    exact ⟨roomy, (Option.some.inj grown).symm⟩
  · cases grown

theorem write_some {report next : OpenReport} {limit : Nat} {space : SpaceId} {command : Command}
    (written : report.write limit space command = some next) :
    report.space = space ∧ report.unfilled = 0 ∧ command.inRange = true ∧
      Roomy limit (report.size + command.wireSize) ∧
      next = { report with size := report.size + command.wireSize } := by
  unfold write at written
  split at written
  · rename_i keeps
    obtain ⟨roomy, rfl⟩ := grow_some written
    exact ⟨keeps.1, keeps.2.1, keeps.2.2, roomy, rfl⟩
  · cases written

def block (report : OpenReport) : Option OpenControl :=
  if report.unfilled = 0 then none else some ⟨report.space, report.unfilled⟩

end OpenReport

variable {σ : Type}

structure Stands (limit : Nat) (conduct : Option OpenReport) (recorder : Recorder σ) : Prop where
  limited : recorder.frameLimit = limit
  current : recorder.current = conduct.map (·.space)
  size : recorder.frame.payload.length = (conduct.map (·.size)).getD 0
  block : recorder.frame.openControl = conduct.bind (·.block)

section Steps

variable {limit : Nat} {recorder : Recorder σ} {report next : OpenReport}

theorem stands_open (stands : Stands limit (some report) recorder) :
    recorder.checkOpen report.space = .ok () := by
  rw [Recorder.checkOpen, stands.current]
  exact if_pos rfl

theorem stands_closed (stands : Stands limit (some report) recorder) (filled : report.unfilled = 0) :
    recorder.frame = ⟨recorder.frame.payload, none⟩ := by
  have closed : recorder.frame.openControl = none := by
    rw [stands.block]
    exact if_pos filled
  rw [← closed]

theorem append_accepted (stands : Stands limit (some report) recorder) (filled : report.unfilled = 0)
    {command : Command} {bytes : Bytes} (encoded : Wire.encode command = .ok bytes) :
    let payload := recorder.frame.payload ++ bytes
    recorder.writeFor report.space (recorder.frame.append command) =
        (.ok (), { recorder with frame := ⟨payload, none⟩ }) ∧
      payload.length = report.size + command.wireSize := by
  have appended : recorder.frame.append command = .ok ⟨recorder.frame.payload ++ bytes, none⟩ := by
    rw [stands_closed stands filled]
    exact FrameBuilder.append_closed _ _ _ encoded
  constructor
  · rw [Recorder.writeFor, stands_open stands, appended]
    rfl
  · rw [List.length_append, stands.size, Wire.encode_size encoded]
    rfl

theorem write_accepted (stands : Stands limit (some report) recorder) (filled : report.unfilled = 0)
    {command : Command} {bytes : Bytes} (encoded : Wire.encode command = .ok bytes) :
    ∃ after, recorder.writeFor report.space (recorder.frame.append command) = (.ok (), after) ∧
      Stands limit (some { report with size := report.size + command.wireSize }) after := by
  obtain ⟨done, size⟩ := append_accepted stands filled encoded
  exact ⟨_, done, stands.limited, stands.current, size, (if_pos filled).symm⟩

theorem write_stands (stands : Stands limit (some report) recorder) {space : SpaceId}
    {command : Command} (written : report.write limit space command = some next) :
    ∃ after, recorder.writeFor space (recorder.frame.append command) = (.ok (), after) ∧
      Stands limit (some next) after := by
  obtain ⟨rfl, filled, inRange, roomy, rfl⟩ := OpenReport.write_some written
  have small : command.wireSize < 2 ^ 32 := Nat.lt_of_le_of_lt (Nat.le_add_left _ _) roomy.2
  obtain ⟨bytes, encoded⟩ := Wire.encode_accepts inRange (Wire.small_counted small)
  exact write_accepted stands filled encoded

theorem idle_empty (stands : Stands limit none recorder) :
    recorder.current = none ∧ recorder.frame = .empty := by
  have nothing : recorder.frame.payload = [] := List.length_eq_zero_iff.mp stands.size
  have closed : recorder.frame.openControl = none := stands.block
  refine ⟨stands.current, ?_⟩
  rw [FrameBuilder.empty, ← nothing, ← closed]

theorem begin_space_stands (stands : Stands limit none recorder) (event : EventId) (space : SpaceId)
    (tileCount : UInt32) :
    ∃ after, recorder.beginSpace event space tileCount = (.ok (), after) ∧
      Stands limit (some ⟨space, 0, (Command.spaceBegin space event tileCount).wireSize⟩) after := by
  obtain ⟨idle, empty⟩ := idle_empty stands
  obtain ⟨bytes, encoded⟩ : ∃ bytes, Wire.encode (.spaceBegin space event tileCount) = .ok bytes := ⟨_, rfl⟩
  have appended : recorder.frame.append (.spaceBegin space event tileCount) = .ok ⟨bytes, none⟩ := by
    rw [empty]
    exact FrameBuilder.append_closed [] bytes _ encoded
  have begun : recorder.beginSpace event space tileCount = (.ok (), { recorder with
      frame := ⟨bytes, none⟩, current := some space, namesInFrame := false }) := by
    simp only [Recorder.beginSpace, idle, appended]
  exact ⟨_, begun, stands.limited, rfl, Wire.encode_size encoded, rfl⟩

theorem control_stands (stands : Stands limit (some report) recorder) (filled : report.unfilled = 0)
    (length : UInt32) :
    ∃ after, recorder.writeFor report.space (recorder.frame.beginControl report.space length) =
        (.ok (), after) ∧
      Stands limit (some { report with
        unfilled := length.toNat
        size := report.size + (Command.control report.space []).wireSize }) after := by
  have opened : recorder.frame.beginControl report.space length =
      .ok ⟨recorder.frame.payload ++ FrameBuilder.controlHeader report.space length,
        if length.toNat = 0 then none else some ⟨report.space, length.toNat⟩⟩ := by
    rw [stands_closed stands filled]
    rfl
  have done : recorder.writeFor report.space (recorder.frame.beginControl report.space length) =
      (.ok (), { recorder with
        frame := ⟨recorder.frame.payload ++ FrameBuilder.controlHeader report.space length,
          if length.toNat = 0 then none else some ⟨report.space, length.toNat⟩⟩ }) := by
    rw [Recorder.writeFor, stands_open stands, opened]
    rfl
  refine ⟨_, done, stands.limited, stands.current, ?_, rfl⟩
  rw [List.length_append, stands.size]
  rfl

theorem put_control_stands (stands : Stands limit (some report) recorder) (flags : TileFlags)
    (unfilled : report.unfilled ≠ 0) :
    ∃ after, recorder.write (recorder.frame.putControl flags) = (.ok (), after) ∧
      Stands limit (some { report with
        unfilled := report.unfilled - 1
        size := report.size + 1 }) after := by
  have filling : recorder.frame.openControl = some ⟨report.space, report.unfilled⟩ := by
    rw [stands.block]
    exact if_neg unfilled
  have put : recorder.frame.putControl flags = .ok ⟨recorder.frame.payload ++ [flags.bits],
      if report.unfilled = 1 then none else some ⟨report.space, report.unfilled - 1⟩⟩ := by
    rw [FrameBuilder.putControl, filling]
  have done : recorder.write (recorder.frame.putControl flags) = (.ok (), { recorder with
      frame := ⟨recorder.frame.payload ++ [flags.bits],
        if report.unfilled = 1 then none else some ⟨report.space, report.unfilled - 1⟩⟩ }) := by
    rw [put]
    rfl
  refine ⟨_, done, stands.limited, stands.current, ?_, ?_⟩
  · rw [List.length_append, stands.size]
    rfl
  · change _ = if report.unfilled - 1 = 0 then none else some _
    by_cases last : report.unfilled = 1
    · rw [if_pos last, if_pos (by omega)]
    · rw [if_neg last, if_neg (by omega)]

theorem start_timer_stands {conduct : Option OpenReport} (stands : Stands limit conduct recorder)
    (now : Duration) : Stands limit conduct (recorder.startTimer now) :=
  ⟨stands.limited, stands.current, stands.size, stands.block⟩

theorem stop_timer_stands {conduct : Option OpenReport} (stands : Stands limit conduct recorder)
    (now : Duration) : Stands limit conduct (recorder.stopTimer now) := by
  unfold Recorder.stopTimer
  split
  · exact stands
  · exact ⟨stands.limited, stands.current, stands.size, stands.block⟩

variable [Sink σ]

theorem flush_outcomes (recorder : Recorder σ) (closed : recorder.frame.openControl = none) :
    let size := recorder.frame.payload.length
    (2 ^ 32 ≤ size ∧ recorder.flushFrame = (.error (.tooManyItems "frame bytes" size), recorder)) ∨
    ∃ outcome sink, recorder.flushFrame = (outcome, { recorder with frame := .empty, sink }) ∧
      (recorder.frameLimit < size ∧ outcome = .error (.frameTooLarge size recorder.frameLimit) ∨
        Roomy recorder.frameLimit size ∧
          (outcome = .ok () ∨ ∃ cause, outcome = .error (.transport cause))) := by
  obtain ⟨sink, ⟨payload, openControl⟩, current, named, namesInFrame, frameLimit, counts,
    compensation, timer⟩ := recorder
  change openControl = none at closed
  subst closed
  intro size
  rcases FrameBuilder.finish_cases payload with ⟨large, refused⟩ | ⟨small, finished⟩
  · left
    refine ⟨large, ?_⟩
    simp only [Recorder.flushFrame, refused]
    rfl
  right
  have length : (frameOf payload).length - FrameBuilder.headerLength = payload.length := by
    rw [frame_of_length, FrameBuilder.headerLength]
    omega
  by_cases beyond : frameLimit < payload.length
  · refine ⟨.error (.frameTooLarge size frameLimit), sink, ?_, .inl ⟨beyond, rfl⟩⟩
    simp only [Recorder.flushFrame, finished, length, if_pos beyond]
    rfl
  have roomy : Roomy frameLimit payload.length := ⟨Nat.not_lt.mp beyond, small⟩
  simp only [Recorder.flushFrame, finished, length, if_neg beyond]
  cases Sink.writeAll sink (frameOf payload) with
  | mk outcome written =>
    cases outcome with
    | error cause => exact ⟨_, _, rfl, .inr ⟨roomy, .inr ⟨cause, rfl⟩⟩⟩
    | ok done =>
      dsimp only
      cases Sink.flush written with
      | mk outcome flushed =>
        cases outcome with
        | error cause => exact ⟨_, _, rfl, .inr ⟨roomy, .inr ⟨cause, rfl⟩⟩⟩
        | ok done => exact ⟨_, _, rfl, .inr ⟨roomy, .inl rfl⟩⟩

theorem flush_roomy (recorder : Recorder σ) (closed : recorder.frame.openControl = none)
    (roomy : Roomy recorder.frameLimit recorder.frame.payload.length) :
    ∃ outcome sink, recorder.flushFrame = (outcome, { recorder with frame := .empty, sink }) ∧
      (outcome = .ok () ∨ ∃ cause, outcome = .error (.transport cause)) := by
  rcases flush_outcomes recorder closed with ⟨large, _⟩ | ⟨outcome, sink, flushed, ⟨beyond, _⟩ | ⟨_, sent⟩⟩
  · exact absurd roomy.2 (Nat.not_lt.mpr large)
  · exact absurd roomy.1 (Nat.not_le.mpr beyond)
  · exact ⟨outcome, sink, flushed, sent⟩

def Settles (limit : Nat) (conduct : Option OpenReport) (result : Except Error Unit × Recorder σ) :
    Prop :=
  (∃ after, result = (.ok (), after) ∧ Stands limit conduct after) ∨
    ∃ cause after, result = (.error (.transport cause), after)

theorem flush_settles (recorder : Recorder σ) (limited : recorder.frameLimit = limit)
    (idle : recorder.current = none) (closed : recorder.frame.openControl = none)
    (roomy : Roomy limit recorder.frame.payload.length) : Settles limit none recorder.flushFrame := by
  obtain ⟨outcome, sink, flushed, rfl | ⟨cause, rfl⟩⟩ := flush_roomy recorder closed (limited ▸ roomy)
  · exact .inl ⟨_, flushed, limited, idle, rfl, rfl⟩
  · exact .inr ⟨cause, _, flushed⟩

theorem end_space_outcomes (stands : Stands limit (some report) recorder) (filled : report.unfilled = 0) :
    let size := report.size + (Command.spaceEnd report.space).wireSize
    2 ^ 32 ≤ size ∧
        (recorder.endSpace report.space).1 = .error (.tooManyItems "frame bytes" size) ∨
      limit < size ∧ (recorder.endSpace report.space).1 = .error (.frameTooLarge size limit) ∨
      Roomy limit size ∧ Settles limit none (recorder.endSpace report.space) := by
  obtain ⟨bytes, encoded⟩ : ∃ bytes, Wire.encode (.spaceEnd report.space) = .ok bytes := ⟨_, rfl⟩
  obtain ⟨done, size⟩ := append_accepted stands filled encoded
  have closing := flush_outcomes { recorder with
    frame := ⟨recorder.frame.payload ++ bytes, none⟩, current := none, namesInFrame := false } rfl
  obtain rfl : recorder.frameLimit = limit := stands.limited
  dsimp only at closing ⊢
  rw [size] at closing
  rcases closing with ⟨large, flushed⟩ | ⟨outcome, sink, flushed, ⟨beyond, rfl⟩ | ⟨roomy, sent⟩⟩
  · left
    simp only [Recorder.endSpace, done, flushed]
    exact ⟨large, trivial⟩
  · right
    left
    simp only [Recorder.endSpace, done, flushed]
    exact ⟨beyond, trivial⟩
  · right
    right
    refine ⟨roomy, ?_⟩
    rcases sent with rfl | ⟨cause, rfl⟩
    · left
      simp only [Recorder.endSpace, done, flushed]
      cases recorder.namesInFrame with
      | false => exact ⟨_, rfl, stands.limited, rfl, rfl, rfl⟩
      | true => exact ⟨_, rfl, stands.limited, rfl, rfl, rfl⟩
    · right
      simp only [Recorder.endSpace, done, flushed]
      exact ⟨cause, _, rfl⟩

theorem end_space_settles (stands : Stands limit (some report) recorder) {space : SpaceId}
    (written : report.write limit space (.spaceEnd space) = some next) :
    Settles limit none (recorder.endSpace space) := by
  obtain ⟨rfl, filled, _, roomy, _⟩ := OpenReport.write_some written
  rcases end_space_outcomes stands filled with ⟨large, _⟩ | ⟨beyond, _⟩ | ⟨_, settles⟩
  · exact absurd roomy.2 (Nat.not_lt.mpr large)
  · exact absurd roomy.1 (Nat.not_le.mpr beyond)
  · exact settles

theorem safepoint_settles (stands : Stands limit none recorder) (event : EventId)
    (room : 15 ≤ limit) : Settles limit none (recorder.safepoint event) := by
  have closed : recorder.frame.openControl = none := stands.block
  have idle : recorder.current = none := stands.current
  rcases Recorder.safepoint_cases recorder event fun _ => closed with
    ⟨current, is, _⟩ | ⟨_, frame, counts, appended, flushed⟩
  · rw [idle] at is
    cases is
  · obtain ⟨_, bytes, encoded, rfl⟩ := FrameBuilder.append_ok appended
    rw [flushed]
    refine flush_settles _ stands.limited idle rfl ?_
    have size := Wire.encode_size encoded
    have nothing : recorder.frame.payload.length = 0 := stands.size
    have long : (recorder.frame.payload ++ bytes).length = 15 := by
      rw [List.length_append, nothing, size]
      rfl
    unfold Roomy
    rw [long]
    exact ⟨room, by decide⟩

theorem perform_stands {conduct following : Option OpenReport} (stands : Stands limit conduct recorder)
    (room : 15 ≤ limit) {events : Nat} (call : ReportCall)
    (keeps : conductAfter limit events conduct call = some following) :
    Settles limit following (recorder.perform call) := by
  cases call with
  | beginSpace event space tileCount =>
    rw [conductAfter] at keeps
    split at keeps
    · rename_i fits
      obtain ⟨rfl, _⟩ := fits
      obtain ⟨next, grown, rfl⟩ := Option.map_eq_some_iff.mp keeps
      obtain ⟨_, rfl⟩ := OpenReport.grow_some grown
      exact .inl (begin_space_stands stands event space tileCount)
    · cases keeps
  | tileNames space names =>
    obtain ⟨report, rfl, keeps⟩ := Option.bind_eq_some_iff.mp keeps
    obtain ⟨next, written, rfl⟩ := Option.map_eq_some_iff.mp keeps
    obtain ⟨after, done, standing⟩ := write_stands stands written
    refine .inl ⟨{ after with namesInFrame := true }, ?_, standing.limited, standing.current,
      standing.size, standing.block⟩
    rw [Recorder.perform, Recorder.writeTileNames, done]
  | streamData space stream kind values =>
    obtain ⟨report, rfl, keeps⟩ := Option.bind_eq_some_iff.mp keeps
    obtain ⟨next, written, rfl⟩ := Option.map_eq_some_iff.mp keeps
    exact .inl (write_stands stands written)
  | control space length =>
    obtain ⟨report, rfl, keeps⟩ := Option.bind_eq_some_iff.mp keeps
    obtain ⟨next, written, rfl⟩ := Option.map_eq_some_iff.mp keeps
    obtain ⟨rfl, filled, _, _, rfl⟩ := OpenReport.write_some written
    exact .inl (control_stands stands filled length)
  | putControl flags =>
    obtain ⟨report, rfl, filled⟩ := Option.bind_eq_some_iff.mp keeps
    split at filled
    · cases filled
    · rename_i unfilled
      obtain ⟨next, grown, rfl⟩ := Option.map_eq_some_iff.mp filled
      obtain ⟨_, rfl⟩ := OpenReport.grow_some grown
      exact .inl (put_control_stands stands flags unfilled)
  | summary space stream values =>
    obtain ⟨report, rfl, keeps⟩ := Option.bind_eq_some_iff.mp keeps
    obtain ⟨next, written, rfl⟩ := Option.map_eq_some_iff.mp keeps
    exact .inl (write_stands stands written)
  | spaceInfo space info =>
    obtain ⟨report, rfl, keeps⟩ := Option.bind_eq_some_iff.mp keeps
    obtain ⟨next, written, rfl⟩ := Option.map_eq_some_iff.mp keeps
    exact .inl (write_stands stands written)
  | endSpace space =>
    obtain ⟨report, rfl, keeps⟩ := Option.bind_eq_some_iff.mp keeps
    obtain ⟨next, written, rfl⟩ := Option.map_eq_some_iff.mp keeps
    exact end_space_settles stands written
  | safepoint event =>
    rw [conductAfter] at keeps
    split at keeps
    · rename_i fits
      obtain ⟨rfl, _⟩ := fits
      cases keeps
      exact safepoint_settles stands event room
    · cases keeps
  | startTimer now =>
    cases keeps
    exact .inl ⟨_, rfl, start_timer_stands stands now⟩
  | stopTimer now =>
    cases keeps
    exact .inl ⟨_, rfl, stop_timer_stands stands now⟩

end Steps

end HeapScope
