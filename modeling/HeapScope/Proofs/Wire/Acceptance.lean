import HeapScope.Proofs.Wire.Commands
import HeapScope.Proofs.Wire.Significance

namespace HeapScope.Wire

theorem rewritten_solid {command : Command} {front : Bytes}
    (plain : command.significant = solid command.wireSize) (written : encode command = .ok front) :
    Rewritten encode Command.significant command front := by
  have size := encode_size written
  rw [Rewritten, plain, ← size, cleared_solid, solid_length]
  exact ⟨rfl, written⟩

theorem rewritten_fields {write : α → Except Error Bytes} {mask : α → Bytes} {item : α}
    {front : Bytes} (rewritten : Rewritten write mask item front) (command : Command)
    (fields : writeFields command = write item)
    (masked : command.significant = solid 1 ++ mask item) :
    Rewritten encode Command.significant command (command.opcode :: front) := by
  obtain ⟨long, written⟩ := rewritten
  change Rewritten encode Command.significant command ([command.opcode] ++ front)
  refine rewritten_behind (mask item) masked long ?_
  rw [encode, fields, written]
  rfl

namespace Reader

theorem value_takes (kind : ValueKind) :
    Takes (value kind) fun value front => writeValue kind value = .ok front := by
  refine takes_bind (number_takes kind.width _) ?_
  rintro n front ⟨rfl, small⟩
  obtain ⟨held, encoded⟩ := kind.decode_number n small
  refine takes_pure ?_
  rw [writeValue, if_pos held, encoded, List.append_nil]

def Reread (opcode : UInt8) (command : Command) (front : Bytes) : Prop :=
  Rewritten encode Command.significant command (opcode :: front) ∧ command.onWire = command

theorem tile_names_takes : Takes (fields 0x04) (Reread 0x04) := by
  refine takes_bind space_id_takes ?_
  rintro space _ rfl
  refine takes_bind (entries_takes _ _) ?_
  rintro count _ ⟨rfl, small⟩
  refine takes_bind (many_written (text_takes _) count) ?_
  rintro names body ⟨rfl, written⟩
  refine takes_pure ⟨rewritten_solid rfl ?_, rfl⟩
  simp only [encode, writeFields, write_count_accepts "tile names" small, written]
  simp [pure, Except.pure, bind, Except.bind, Command.opcode]

theorem stream_data_takes : Takes (fields 0x05) (Reread 0x05) := by
  refine takes_bind space_id_takes ?_
  rintro space _ rfl
  refine takes_bind stream_id_takes ?_
  rintro stream _ rfl
  refine takes_bind kind_takes ?_
  rintro kind _ rfl
  refine takes_bind (entries_takes _ _) ?_
  rintro count _ ⟨rfl, small⟩
  refine takes_bind (many_written (value_takes kind) count) ?_
  rintro values body ⟨rfl, written⟩
  refine takes_pure ⟨rewritten_solid rfl ?_, rfl⟩
  simp only [encode, writeFields, write_count_accepts "stream values" small, written]
  simp [pure, Except.pure, bind, Except.bind, Command.opcode]

theorem cleared_entries (bits : Bytes) :
    cleared ((bits.map TileFlags.ofByte).map fun _ => 0x1f) bits =
      (bits.map TileFlags.ofByte).map (·.bits) := by
  induction bits with
  | nil => rfl
  | cons byte bits ih => exact congrArg ((byte &&& 0x1f) :: ·) ih

theorem control_takes : Takes (fields 0x06) (Reread 0x06) := by
  refine takes_bind space_id_takes ?_
  rintro space _ rfl
  refine takes_bind (entries_takes _ _) ?_
  rintro count _ ⟨rfl, small⟩
  refine takes_bind (take_takes count _) ?_
  rintro taken bits ⟨rfl, long⟩
  refine takes_pure ⟨?_, ?_⟩
  · have cut : 0x06 :: ([space.number] ++ (Bytes.bigEndian 4 count ++ (bits ++ []))) =
        (0x06 :: space.number :: Bytes.bigEndian 4 count) ++ bits := by simp
    rw [cut]
    refine rewritten_behind ((bits.map TileFlags.ofByte).map fun _ => 0x1f) ?_ ?_ ?_
    · simp only [Command.significant, List.length_cons, Bytes.big_endian_length]
    · rw [List.length_map, List.length_map]
    · have counted : (bits.map TileFlags.ofByte).length = count := by rw [List.length_map, long]
      rw [cleared_entries]
      simp only [encode, writeFields, counted, write_count_accepts "control block" small]
      rfl
  · have kept : (TileFlags.onWire ∘ TileFlags.ofByte) = TileFlags.ofByte :=
      funext TileFlags.of_byte_idempotent
    rw [Command.onWire, List.map_map, kept]

theorem summary_takes : Takes (fields 0x07) (Reread 0x07) := by
  refine takes_bind space_id_takes ?_
  rintro space _ rfl
  refine takes_bind stream_id_takes ?_
  rintro stream _ rfl
  refine takes_bind (entries_takes _ _) ?_
  rintro count _ ⟨rfl, small⟩
  refine takes_bind (many_takes (fun values front => front = values.flatMap writeInt) (int_takes _)
    rfl ?_ count) ?_
  · rintro value values _ _ rfl rfl
    rfl
  rintro values _ ⟨rfl, rfl⟩
  refine takes_pure ⟨rewritten_solid rfl ?_, rfl⟩
  simp only [encode, writeFields, write_count_accepts "summary values" small]
  simp [pure, Except.pure, bind, Except.bind, Command.opcode]

theorem safepoint_takes : Takes (fields 0x0a) (Reread 0x0a) := by
  refine takes_bind event_id_takes ?_
  rintro event _ rfl
  refine takes_bind (count32_takes _) ?_
  rintro count _ rfl
  refine takes_bind (number_takes 8 _) ?_
  rintro microseconds _ ⟨rfl, small⟩
  have same := Duration.microseconds_of_microseconds microseconds small
  refine takes_pure ⟨rewritten_solid rfl ?_, ?_⟩
  · simp only [encode, writeFields, same]
    simp [pure, Except.pure, bind, Except.bind, Command.opcode]
  · exact congrArg (fun length => Command.safepoint event count (.ofMicroseconds length)) same

theorem fields_takes (opcode : UInt8) : Takes (fields opcode) (Reread opcode) := by
  unfold fields
  split
  case h_1 =>
    refine takes_bind server_takes ?_
    rintro info front ⟨rewritten, same⟩
    rw [← List.append_nil front] at rewritten
    exact takes_pure ⟨rewritten_fields rewritten (.hello info) rfl rfl, congrArg Command.hello same⟩
  case h_2 =>
    refine takes_bind space_takes ?_
    rintro space front ⟨rewritten, same⟩
    rw [← List.append_nil front] at rewritten
    exact takes_pure
      ⟨rewritten_fields rewritten (.spaceDef space) rfl rfl, congrArg Command.spaceDef same⟩
  case h_3 =>
    refine takes_bind space_id_takes ?_
    rintro space _ rfl
    refine takes_bind event_id_takes ?_
    rintro event _ rfl
    refine takes_bind (count32_takes _) ?_
    rintro tileCount _ rfl
    exact takes_pure ⟨rewritten_solid rfl rfl, rfl⟩
  case h_4 => exact tile_names_takes
  case h_5 => exact stream_data_takes
  case h_6 => exact control_takes
  case h_7 => exact summary_takes
  case h_8 =>
    refine takes_bind space_id_takes ?_
    rintro space _ rfl
    refine takes_bind (text_takes _) ?_
    rintro info front written
    refine takes_pure ⟨rewritten_solid rfl ?_, rfl⟩
    simp only [encode, writeFields, written]
    simp [pure, Except.pure, bind, Except.bind, Command.opcode]
  case h_9 =>
    refine takes_bind space_id_takes ?_
    rintro space _ rfl
    exact takes_pure ⟨rewritten_solid rfl rfl, rfl⟩
  case h_10 => exact safepoint_takes
  case h_15 =>
    refine takes_bind event_id_takes ?_
    rintro event _ rfl
    refine takes_bind (bool_takes _) ?_
    rintro enabled _ rfl
    exact takes_pure ⟨rewritten_solid rfl rfl, rfl⟩
  case h_17 =>
    intro bytes command rest done
    cases done
  all_goals exact takes_pure ⟨rewritten_solid rfl rfl, rfl⟩

theorem commands_rewritten {commands : List Command} {bytes : Bytes}
    (read : Reader.commands bytes = .ok commands) :
    Rewritten (writeEach encode) (List.flatMap Command.significant) commands bytes ∧
      commands.map Command.onWire = commands := by
  induction commands generalizing bytes with
  | nil =>
    obtain rfl := commands_ok_nil read
    exact ⟨rewritten_nil _ _, rfl⟩
  | cons command commands ih =>
    obtain ⟨opcode, fieldBytes, rest, rfl, reached, behind⟩ := commands_cons_ok read
    obtain ⟨front, ⟨first, same⟩, rfl⟩ := fields_takes opcode fieldBytes command rest reached
    obtain ⟨others, allSame⟩ := ih behind
    refine ⟨rewritten_cons first others, ?_⟩
    rw [List.map_cons, same, allSame]

end Reader

theorem decode_rewritten {payload : Bytes} {commands : List Command}
    (accepted : decode payload = .ok commands) :
    Rewritten (writeEach encode) (List.flatMap Command.significant) commands payload ∧
      commands.map Command.onWire = commands := by
  unfold decode at accepted
  split at accepted
  · rename_i read done
    cases accepted
    exact Reader.commands_rewritten done
  · cases accepted

end HeapScope.Wire
