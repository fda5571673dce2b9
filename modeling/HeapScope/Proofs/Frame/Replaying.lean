import HeapScope.Proofs.Frame.History
import HeapScope.Proofs.Wire.Acceptance

namespace HeapScope

def Command.calls : Command → List FrameBuilder.Call
  | .control space flags => .beginControl space (UInt32.ofNat flags.length) :: flags.map .putControl
  | command => [.append command]

namespace FrameBuilder

def Accepts (builder : FrameBuilder) (calls : List Call) (next : FrameBuilder) : Prop :=
  ∀ more, performAll builder (calls ++ more) = performAll next more

theorem accepts_nil (builder : FrameBuilder) : Accepts builder [] builder := fun _ => rfl

theorem accepts_cons {builder middle next : FrameBuilder} {call : Call} {calls : List Call}
    (first : builder.perform call = (.ok none, middle)) (others : Accepts middle calls next) :
    Accepts builder (call :: calls) next := by
  intro more
  rw [List.cons_append, ← others more]
  cases calls ++ more with
  | nil => exact first
  | cons call calls => simp only [performAll, first]

theorem accepts_append {builder middle next : FrameBuilder} {left right : List Call}
    (first : Accepts builder left middle) (others : Accepts middle right next) :
    Accepts builder (left ++ right) next := by
  intro more
  rw [List.append_assoc, first, others]

theorem put_controls_accepted (space : SpaceId) (flags : List TileFlags) (nonempty : 0 < flags.length)
    (front : Bytes) :
    Accepts ⟨front, some ⟨space, flags.length⟩⟩ (flags.map .putControl)
      ⟨front ++ flags.map (·.bits), none⟩ := by
  induction flags generalizing front with
  | nil => exact absurd nonempty (Nat.lt_irrefl 0)
  | cons first flags ih =>
    have rest : front ++ (first :: flags).map (·.bits) = front ++ [first.bits] ++ flags.map (·.bits) := by
      rw [List.append_assoc, List.map_cons, List.singleton_append]
    rw [rest, List.map_cons]
    cases flags with
    | nil =>
      rw [List.map_nil, List.map_nil, List.append_nil]
      exact accepts_cons rfl (accepts_nil _)
    | cons second flags =>
      refine accepts_cons ?_ (ih (Nat.succ_pos _) _)
      have others : (first :: second :: flags).length ≠ 1 := by simp
      simp only [perform, putControl, if_neg others, perform.settle]
      rfl

theorem block_accepted (space : SpaceId) (flags : List TileFlags) (small : flags.length < 2 ^ 32)
    (front : Bytes) :
    Accepts ⟨front, none⟩ (Command.control space flags).calls
      ⟨front ++ (controlHeader space (UInt32.ofNat flags.length) ++ flags.map (·.bits)), none⟩ := by
  have count : (UInt32.ofNat flags.length).toNat = flags.length := UInt32.toNat_ofNat_of_lt' small
  have opened : (⟨front, none⟩ : FrameBuilder).perform
      (.beginControl space (UInt32.ofNat flags.length)) =
      (.ok none, ⟨front ++ controlHeader space (UInt32.ofNat flags.length),
        if flags.length = 0 then none else some ⟨space, flags.length⟩⟩) := by
    simp only [perform, beginControl, checkFilled, count]
    simp only [controlHeader, count]
    rfl
  rw [← List.append_assoc]
  refine accepts_cons opened ?_
  by_cases none : flags.length = 0
  · obtain rfl := List.eq_nil_of_length_eq_zero none
    rw [if_pos none, List.map_nil, List.map_nil, List.append_nil]
    exact accepts_nil _
  · rw [if_neg none]
    exact put_controls_accepted space flags (Nat.pos_of_ne_zero none) _

theorem command_accepted {command : Command} {bytes : Bytes}
    (written : Wire.encode command = .ok bytes) (front : Bytes) :
    Accepts ⟨front, none⟩ command.calls ⟨front ++ bytes, none⟩ := by
  have appended : (⟨front, none⟩ : FrameBuilder).perform (.append command) =
      (.ok none, ⟨front ++ bytes, none⟩) := by
    have added : append ⟨front, none⟩ command = .ok ⟨front ++ bytes, none⟩ := by
      rw [append, checkFilled, written]
      rfl
    simp only [perform, added, perform.settle]
  cases command with
  | control space flags =>
    have small : flags.length < 2 ^ 32 := by
      obtain ⟨fields, fieldsWritten, -⟩ := Wire.except_bind_ok written
      obtain ⟨count, countWritten, -⟩ := Wire.except_bind_ok fieldsWritten
      exact (Wire.write_count_ok countWritten).1
    have count : (UInt32.ofNat flags.length).toNat = flags.length := UInt32.toNat_ofNat_of_lt' small
    rw [encode_block space (UInt32.ofNat flags.length) flags count.symm] at written
    cases written
    exact block_accepted space flags small front
  | _ => exact accepts_cons appended (accepts_nil _)

theorem commands_accepted {commands : List Command} {bytes : Bytes}
    (written : Wire.writeEach Wire.encode commands = .ok bytes) (front : Bytes) :
    Accepts ⟨front, none⟩ (commands.flatMap Command.calls) ⟨front ++ bytes, none⟩ := by
  induction commands generalizing bytes front with
  | nil =>
    rw [Wire.write_each_nil] at written
    cases written
    rw [List.append_nil]
    exact accepts_nil _
  | cons command commands ih =>
    obtain ⟨first, others, firstWritten, othersWritten, rfl⟩ := Wire.write_each_cons_ok written
    rw [List.flatMap_cons, ← List.append_assoc]
    exact accepts_append (command_accepted firstWritten front) (ih othersWritten _)

theorem accepted_payload_replayed (payload : Bytes) (commands : List Command)
    (small : payload.length < 2 ^ 32) (accepted : Wire.decode payload = .ok commands) :
    ∃ builder replayed,
      empty.performAll (commands.flatMap Command.calls) = (.ok none, builder) ∧
      builder.perform .finish =
        (.ok (some (Bytes.bigEndian 4 replayed.length ++ replayed)), empty) ∧
      replayed.length = payload.length ∧
      Wire.decode replayed = .ok commands ∧
      (commands.flatMap Command.significant).length = payload.length ∧
      replayed = Wire.cleared (commands.flatMap Command.significant) payload := by
  obtain ⟨⟨masked, written⟩, same⟩ := Wire.decode_rewritten accepted
  have long : (Wire.cleared (commands.flatMap Command.significant) payload).length = payload.length := by
    rw [Wire.cleared, List.length_zipWith, ← masked, Nat.min_self]
  have read := Wire.decode_written commands _ written
  have calls := commands_accepted written [] []
  rw [List.append_nil, List.nil_append] at calls
  rw [same] at read
  refine ⟨_, _, calls, ?_, long, read, masked.symm, rfl⟩
  have counted : Wire.writeCount headerLength "frame bytes"
      (Wire.cleared (commands.flatMap Command.significant) payload).length =
      .ok (Bytes.bigEndian 4 (Wire.cleared (commands.flatMap Command.significant) payload).length) := by
    rw [long]
    exact if_pos small
  simp only [perform, finish, checkFilled, counted]
  rfl

-- A space with all flags set and entries with the upper bits set; both are accepted, and cleared.
theorem careless_payload_replayed :
    let payload : Bytes := [2, 3, 0, 1, 97, 0, 0, 0, 0, 0, 0, 0, 0, 0, 9, 0, 0, 0xff, 0,
      6, 3, 0, 0, 0, 2, 0xe1, 4]
    let commands : List Command :=
      [.spaceDef ⟨⟨3⟩, "a", "", "", "", 9, "", true, []⟩, .control ⟨3⟩ [⟨1⟩, ⟨4⟩]]
    payload.length < 2 ^ 32 ∧ Wire.decode payload = .ok commands ∧
      ∃ builder replayed,
        empty.performAll (commands.flatMap Command.calls) = (.ok none, builder) ∧
        builder.perform .finish =
          (.ok (some (Bytes.bigEndian 4 replayed.length ++ replayed)), empty) ∧
        replayed.length = payload.length ∧
        Wire.decode replayed = .ok commands ∧
        (commands.flatMap Command.significant).length = payload.length ∧
        replayed = Wire.cleared (commands.flatMap Command.significant) payload := by
  intro payload commands
  have accepted : Wire.decode payload = .ok commands :=
    Wire.except_ok_of_option (by decide +kernel)
  exact ⟨by decide, accepted, accepted_payload_replayed payload commands (by decide) accepted⟩

end FrameBuilder

end HeapScope
