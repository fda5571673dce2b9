import HeapScope.Proofs.LinearSpace.Operations
import HeapScope.Proofs.LinearSpace.Conduct

namespace HeapScope

section Accepting

variable {ρ : Type} [Reporter ρ]

inductive AcceptsAll : ρ → List ReportCall → ρ → Prop where
  | nothing {reporter : ρ} : AcceptsAll reporter [] reporter
  | first {reporter next after : ρ} {call : ReportCall} {calls : List ReportCall}
      (accepted : Reporter.perform reporter call = (.ok (), next)) (others : AcceptsAll next calls after) :
      AcceptsAll reporter (call :: calls) after

theorem accepts_all_append {reporter next after : ρ} {calls more : List ReportCall}
    (accepts : AcceptsAll reporter calls next) (others : AcceptsAll next more after) :
    AcceptsAll reporter (calls ++ more) after := by
  induction accepts with
  | nothing => exact others
  | first accepted _ ih => exact .first accepted (ih others)

theorem accepts_all_then {reporter next : ρ} {calls : List ReportCall}
    (accepts : AcceptsAll reporter calls next) (more : List ReportCall) :
    (performAll reporter (calls ++ more)).outcome = (performAll next more).outcome ∧
      (performAll reporter (calls ++ more)).reporter = (performAll next more).reporter := by
  induction accepts with
  | nothing => exact ⟨rfl, rfl⟩
  | first accepted others ih => simpa [performAll, accepted] using ih

theorem perform_all_last (reporter : ρ) (call : ReportCall) :
    performAll reporter [call] =
      ⟨(Reporter.perform reporter call).1, [call], (Reporter.perform reporter call).2⟩ := by
  rw [performAll]
  cases Reporter.perform reporter call with
  | mk outcome next => cases outcome <;> rfl

theorem perform_all_refused {reporter next : ρ} {call : ReportCall} {error : Error}
    (refused : Reporter.perform reporter call = (.error error, next)) (calls : List ReportCall) :
    performAll reporter (call :: calls) = ⟨.error error, [call], next⟩ := by
  rw [performAll, refused]

end Accepting

variable {σ : Type} [Sink σ] {limit : Nat} {recorder : Recorder σ} {report : OpenReport}

omit [Sink σ] in
theorem write_refused (stands : Stands limit (some report) recorder) (filled : report.unfilled = 0)
    {command : Command} {error : Error} (refused : Wire.encode command = .error error) :
    recorder.writeFor report.space (recorder.frame.append command) = (.error error, recorder) := by
  have failed : recorder.frame.append command = .error error := by
    rw [stands_closed stands filled]
    simp only [FrameBuilder.append, FrameBuilder.checkFilled, refused]
    rfl
  rw [Recorder.writeFor, stands_open stands, failed]
  rfl

theorem perform_write_accepted (stands : Stands limit (some report) recorder)
    (filled : report.unfilled = 0) {call : ReportCall} {command : Command}
    (named : call.write? = some (.append command)) (tells : command.TellsOf report.space) {bytes : Bytes}
    (encoded : Wire.encode command = .ok bytes) :
    ∃ after, Reporter.perform recorder call = (.ok (), after) ∧
      Stands limit (some { report with size := report.size + command.wireSize }) after := by
  obtain ⟨after, done, standing⟩ := write_accepted stands filled encoded
  cases call with
  | tileNames space names =>
    cases named
    obtain rfl : space = report.space := tells
    refine ⟨{ after with namesInFrame := true }, ?_, standing.limited, standing.current, standing.size,
      standing.block⟩
    simp only [Reporter.perform, Recorder.perform, Recorder.writeTileNames, done]
  | streamData | summary | spaceInfo =>
    cases named
    cases tells
    exact ⟨after, done, standing⟩
  | control | putControl => cases named
  | beginSpace | endSpace | safepoint | startTimer | stopTimer => cases named

theorem writes_accepted (stands : Stands limit (some report) recorder) (filled : report.unfilled = 0)
    (calls : List ReportCall) (commands : List Command)
    (writes : calls.map ReportCall.write? = commands.map fun command => some (.append command))
    (fits : ∀ command ∈ commands,
      command.TellsOf report.space ∧ command.inRange = true ∧ command.counted = true) :
    ∃ after, AcceptsAll recorder calls after ∧
      Stands limit (some { report with size := report.size + (commands.map Command.wireSize).sum })
        after := by
  induction calls generalizing recorder report commands with
  | nil =>
    cases commands with
    | nil => exact ⟨recorder, .nothing, stands⟩
    | cons command commands => cases writes
  | cons call calls ih =>
    cases commands with
    | nil => cases writes
    | cons command commands =>
      obtain ⟨named, others⟩ := List.cons.inj writes
      obtain ⟨tells, inRange, counted⟩ := fits command List.mem_cons_self
      obtain ⟨bytes, encoded⟩ := Wire.encode_accepts inRange counted
      obtain ⟨next, done, standing⟩ := perform_write_accepted stands filled named tells encoded
      obtain ⟨after, rest, stood⟩ := ih standing filled commands others
        fun other member => fits other (List.mem_cons_of_mem command member)
      refine ⟨after, .first done rest, ?_⟩
      rw [List.map_cons, List.sum_cons, ← Nat.add_assoc]
      exact stood

theorem entries_accepted (stands : Stands limit (some report) recorder) (flags : List TileFlags)
    (lacks : report.unfilled = flags.length) :
    ∃ after, AcceptsAll recorder (flags.map .putControl) after ∧
      Stands limit (some { report with unfilled := 0, size := report.size + flags.length }) after := by
  induction flags generalizing recorder report with
  | nil =>
    obtain ⟨space, unfilled, size⟩ := report
    obtain rfl : unfilled = 0 := lacks
    exact ⟨recorder, .nothing, stands⟩
  | cons first flags ih =>
    rw [List.length_cons] at lacks ⊢
    obtain ⟨next, done, standing⟩ := put_control_stands stands first (by omega)
    obtain ⟨after, rest, stood⟩ := ih standing (by change report.unfilled - 1 = _; omega)
    refine ⟨after, .first done rest, ?_⟩
    rw [Nat.add_comm flags.length, ← Nat.add_assoc]
    exact stood

namespace LinearSpace

variable {space : LinearSpace}

theorem default_info_short (plain : space.info.isEmpty = true) :
    space.infoText.utf8ByteSize < 256 ^ 2 := by
  obtain ⟨used, is⟩ : ∃ used : Int32, used = ValueKind.int.clamp space.used.total := ⟨_, rfl⟩
  have bounded := space.tiling.bounded
  have ordered := space.tiling.ordered
  have start := Tiling.hex_text_short (Nat.lt_of_le_of_lt ordered bounded)
  have stop := Tiling.hex_text_short bounded
  have length : space.tiling.length.repr.utf8ByteSize ≤ 4 * 20 :=
    Digits.digits_size (by decide) (by decide) (by unfold Tiling.length; omega)
  have total : used.toInt.repr.utf8ByteSize ≤ 1 + 4 * 20 := by
    have low := used.le_toInt
    have high := used.toInt_lt
    exact Digits.int_size (by decide) (by omega)
  have words : "Start: ".utf8ByteSize + "\nEnd: ".utf8ByteSize + "\nUsed: ".utf8ByteSize +
      " of ".utf8ByteSize + " bytes".utf8ByteSize = 30 := by decide
  have text : space.infoText = "Start: " ++ Hex.text space.tiling.start ++ "\nEnd: " ++
      Hex.text space.tiling.stop ++
        ("\nUsed: " ++ used.toInt.repr ++ " of " ++ space.tiling.length.repr ++ " bytes") := by
    rw [is]
    exact if_pos plain
  rw [text]
  simp only [String.utf8ByteSize_append]
  omega

theorem info_text_set (long : 256 ^ 2 ≤ space.infoText.utf8ByteSize) : space.infoText = space.info := by
  by_cases plain : space.info.isEmpty = true
  · exact absurd (default_info_short plain) (Nat.not_lt.mpr long)
  · rw [infoText, if_neg plain]

def Concludes (space : LinearSpace) (limit size : Nat) (result : Except Error Unit × Recorder σ) :
    Prop :=
  256 ^ 2 ≤ space.info.utf8ByteSize ∧ result.1 = .error (.stringTooLong space.info.utf8ByteSize) ∨
  2 ^ 32 ≤ size ∧ result.1 = .error (.tooManyItems "frame bytes" size) ∨
  limit < size ∧ result.1 = .error (.frameTooLarge size limit) ∨
  Roomy limit size ∧ Settles limit none result

theorem ending_concludes (space : LinearSpace) (stands : Stands limit (some report) recorder)
    (filled : report.unfilled = 0) (here : report.space = space.id) :
    let performed := performAll recorder [.spaceInfo space.id space.infoText, .endSpace space.id]
    space.Concludes limit (report.size + (Command.spaceInfo space.id space.infoText).wireSize + 2)
      (performed.outcome, performed.reporter) := by
  by_cases told : space.infoText.utf8ByteSize < 256 ^ 2
  · have info : (ReportCall.spaceInfo space.id space.infoText).write? =
        some (.append (.spaceInfo space.id space.infoText)) := rfl
    have encodes : ∃ bytes, Wire.encode (.spaceInfo space.id space.infoText) = .ok bytes :=
      Wire.encode_accepts (decide_eq_true told) rfl
    obtain ⟨bytes, encoded⟩ := encodes
    obtain ⟨after, accepted, standing⟩ := perform_write_accepted stands filled info here.symm encoded
    have ended := end_space_outcomes standing filled
    rw [here] at ended
    obtain ⟨outcome, reporter⟩ := accepts_all_then (.first accepted .nothing) [.endSpace space.id]
    rw [perform_all_last, List.singleton_append] at outcome reporter
    dsimp only
    rw [outcome, reporter]
    exact .inr ended
  · have long := Nat.not_lt.mp told
    have set := info_text_set long
    have refused : Wire.encode (.spaceInfo space.id space.infoText) =
        .error (.stringTooLong space.infoText.utf8ByteSize) := by
      simp only [Wire.encode, Wire.writeFields, Wire.writeText, if_neg told]
      rfl
    have failed := write_refused stands filled refused
    rw [here] at failed
    rw [perform_all_refused failed]
    rw [set] at long
    exact .inl ⟨long, by rw [set]⟩

def listCalls (space : LinearSpace) (withNames : Bool) : List ReportCall :=
  space.headCalls withNames
    ++ .control space.id space.descriptor.tileCount :: (space.control.map .putControl
      ++ space.streams.map fun stream => .summary space.id stream.descriptor.id stream.summary)

theorem list_calls_accepted (sound : space.Sound) (held : space.Held)
    (stands : Stands limit (some ⟨space.id, 0, 8⟩) recorder) (event : EventId) (withNames : Bool) :
    ∃ size after, AcceptsAll recorder (space.listCalls withNames) after ∧
      Stands limit (some ⟨space.id, 0, size⟩) after ∧
      space.reportSize event withNames =
        size + (Command.spaceInfo space.id space.infoText).wireSize + 2 := by
  have fits := lists_fit sound held withNames
  have lacks : space.descriptor.tileCount.toNat = space.control.length :=
    sound.counted.trans sound.control.symm
  obtain ⟨head, headSize⟩ : ∃ head, head = 8 + ((space.reportHead withNames).map Command.wireSize).sum :=
    ⟨_, rfl⟩
  obtain ⟨named, heads, standing⟩ :
      ∃ after, AcceptsAll recorder (space.headCalls withNames) after ∧
        Stands limit (some ⟨space.id, 0, head⟩) after := by
    rw [headSize]
    exact writes_accepted stands rfl _ (space.reportHead withNames)
      (by cases withNames <;> simp [headCalls, reportHead, ReportCall.write?])
      fun command member => fits command (List.mem_append_left _ member)
  obtain ⟨opened, opens, standing⟩ :
      ∃ after, Reporter.perform named (.control space.id space.descriptor.tileCount) = (.ok (), after) ∧
        Stands limit (some ⟨space.id, space.control.length, head + 6⟩) after :=
    lacks ▸ control_stands standing rfl space.descriptor.tileCount
  obtain ⟨filled, entries, standing⟩ := entries_accepted standing space.control rfl
  obtain ⟨summed, summaries, standing⟩ := writes_accepted standing rfl
    (space.streams.map fun stream => .summary space.id stream.descriptor.id stream.summary)
    (space.streams.map fun stream => .summary space.id stream.descriptor.id stream.summary)
    (by simp [ReportCall.write?]) fun command member => fits command (List.mem_append_right _ member)
  refine ⟨_, summed, accepts_all_append heads (.first opens (accepts_all_append entries summaries)),
    standing, ?_⟩
  rw [report_size_parts, reportTail, List.map_append, List.sum_append, headSize]
  simp only [List.map_cons, List.map_nil, List.sum_cons, List.sum_nil]
  omega

theorem report_concludes (sound : space.Sound) (held : space.Held)
    (stands : Stands limit (some ⟨space.id, 0, 8⟩) recorder) (event : EventId) (withNames : Bool) :
    let performed := performAll recorder (space.reportCalls withNames)
    space.Concludes limit (space.reportSize event withNames) (performed.outcome, performed.reporter) := by
  obtain ⟨size, after, lists, standing, whole⟩ := list_calls_accepted sound held stands event withNames
  obtain ⟨outcome, reporter⟩ :=
    accepts_all_then lists [.spaceInfo space.id space.infoText, .endSpace space.id]
  have calls : space.reportCalls withNames =
      space.listCalls withNames ++ [.spaceInfo space.id space.infoText, .endSpace space.id] := by
    rw [report_calls_parts sound]
    simp [listCalls, tailCalls]
  have ended := ending_concludes space standing rfl rfl
  rw [← calls] at outcome reporter
  dsimp only
  rw [outcome, reporter, whole]
  exact ended

theorem send_concludes (sound : space.Sound) (held : space.Held) (stands : Stands limit none recorder)
    (event : EventId) :
    space.Concludes limit
      (space.reportSize event (space.namesPending || recorder.needsTileNames space.id))
      ((space.send recorder event).outcome, (space.send recorder event).reporter) := by
  obtain ⟨opened, begun, standing⟩ :=
    begin_space_stands stands event space.id space.descriptor.tileCount
  have answered : Reporter.perform recorder
      (.beginSpace event space.id space.descriptor.tileCount) = (.ok (), opened) := begun
  have asks := recorder.begin_space_asks event space.id space.descriptor.tileCount space.id
  rw [begun] at asks
  change Reporter.needsTileNames opened space.id = _ at asks
  simp only [send, answered, asks]
  generalize (space.namesPending || recorder.needsTileNames space.id) = withNames
  have concludes := report_concludes sound held standing event withNames
  dsimp only at concludes
  generalize performAll opened (space.reportCalls withNames) = performed at concludes ⊢
  obtain ⟨outcome, made, reporter⟩ := performed
  cases outcome <;> exact concludes

theorem operate_held (sound : space.Sound) (held : space.Held) (operation : Operation) :
    (space.operate operation).2.Held := by
  cases operation with
  | call call => exact perform_held sound held call
  | setMainSpace mainSpace => exact { held with }
  | transmit reports reporter event started stopped =>
    rcases space.transmit_space reporter event started stopped with unmoved | ⟨_, unpended⟩
    · rw [operate, unmoved]
      exact held
    · rw [operate, unpended]
      exact { held with }

theorem run_held (sound : space.Sound) (held : space.Held) (operations : List Operation) :
    (space.run operations).Held := by
  have kept := run_keeps (fun space => space.Sound ∧ space.Held)
    (fun _ operation kept => ⟨operate_sound kept.1 operation, operate_held kept.1 kept.2 operation⟩)
    operations (And.intro sound held)
  exact kept.2

theorem transmit_fails_for_size_alone (id : SpaceId) (name : String) (start stop blockSize : UInt64)
    (space : LinearSpace) (made : make id name start stop blockSize = .ok space)
    (operations : List Operation) (recorder : Recorder σ) (idle : recorder.current = none)
    (empty : recorder.frame = .empty) (event : EventId) (started stopped : Duration) :
    let reached := space.run operations
    let sent := reached.transmit recorder event started stopped
    let size := reached.reportSize event (reached.namesPending || recorder.needsTileNames reached.id)
    (sent.outcome = .ok () ∧ sent.reporter.current = none ∧ sent.reporter.frame = .empty) ∨
    (sent.outcome = .error (.stringTooLong reached.info.utf8ByteSize) ∧
      65535 < reached.info.utf8ByteSize) ∨
    (sent.outcome = .error (.tooManyItems "frame bytes" size) ∧ 2 ^ 32 ≤ size) ∨
    (sent.outcome = .error (.frameTooLarge size recorder.frameLimit) ∧ recorder.frameLimit < size) ∨
    ∃ cause, sent.outcome = .error (.transport cause) := by
  intro reached sent size
  have sound : reached.Sound := run_sound (make_sound made).1 operations
  have held : reached.Held := run_held (make_sound made).1 (make_held made) operations
  have stands : Stands recorder.frameLimit none (recorder.startTimer started) :=
    ⟨rfl, idle, by rw [Recorder.startTimer, empty]; rfl, by rw [Recorder.startTimer, empty]; rfl⟩
  have concludes := send_concludes sound held stands event
  rcases concludes with ⟨long, outcome⟩ | ⟨large, outcome⟩ | ⟨beyond, outcome⟩ | ⟨_, settles⟩
  · exact .inr (.inl ⟨outcome, long⟩)
  · exact .inr (.inr (.inl ⟨outcome, large⟩))
  · exact .inr (.inr (.inr (.inl ⟨outcome, beyond⟩)))
  · rcases settles with ⟨after, accepted, standing⟩ | ⟨cause, after, failed⟩
    · left
      obtain ⟨outcome, reporter⟩ := Prod.mk.inj accepted
      have rests := stop_timer_stands standing stopped
      rw [← reporter] at rests
      exact ⟨outcome, idle_empty rests⟩
    · exact .inr (.inr (.inr (.inr ⟨cause, congrArg Prod.fst failed⟩)))

theorem large_report_refused :
    let operations : List Operation := [.call (.scan 10 100 true), .call (.setSeparator 7),
      .transmit inferInstance Silent.mk ⟨1⟩ ⟨0⟩ ⟨5⟩, .call (.setCursor 80)]
    let recorder := Recorder.withLimit MemorySink.unlimited 100
    let sent (space : LinearSpace) := (space.run operations).transmit recorder ⟨1⟩ ⟨5⟩ ⟨9⟩
    ∃ space, make ⟨2⟩ "Main" 0 96 64 = .ok space ∧ recorder.current = none ∧ recorder.frame = .empty ∧
      (sent space).outcome = .error (.frameTooLarge 190 100) := by
  intro operations recorder sent
  have each (space : LinearSpace) (made : make ⟨2⟩ "Main" 0 96 64 = .ok space) :=
    transmit_fails_for_size_alone ⟨2⟩ "Main" 0 96 64 space made operations recorder rfl rfl ⟨1⟩ ⟨5⟩ ⟨9⟩
  obtain ⟨space, made⟩ : ∃ space, make ⟨2⟩ "Main" 0 96 64 = .ok space := ⟨_, rfl⟩
  refine ⟨space, made, rfl, rfl, ?_⟩
  have info : (space.run operations).info.utf8ByteSize = 0 := by
    cases made
    decide +kernel
  have size : (space.run operations).reportSize ⟨1⟩
      ((space.run operations).namesPending || recorder.needsTileNames (space.run operations).id) = 190 := by
    cases made
    decide +kernel
  have failed : (sent space).outcome ≠ .ok () ∧
      Journal.failedInTransport (sent space).outcome = false := by
    cases made
    decide +kernel
  have told := each space made
  dsimp only at told
  rw [info, size] at told
  rcases told with ⟨accepted, _⟩ | ⟨_, long⟩ | ⟨_, large⟩ | ⟨refused, _⟩ | ⟨cause, lost⟩
  · exact absurd accepted failed.1
  · exact absurd long (by decide)
  · exact absurd large (by decide)
  · exact refused
  · have transport : Journal.failedInTransport (sent space).outcome = true :=
      congrArg Journal.failedInTransport lost
    rw [failed.2] at transport
    cases transport

end LinearSpace

end HeapScope
