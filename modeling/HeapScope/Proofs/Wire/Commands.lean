import HeapScope.Proofs.Wire.Descriptors
import HeapScope.Wire.Commands

namespace HeapScope

def TileFlags.onWire (flags : TileFlags) : TileFlags := ⟨flags.bits &&& 0x1f⟩

def Duration.onWire (length : Duration) : Duration :=
  ⟨min (length.nanoseconds / 1000) (2 ^ 64 - 1) * 1000⟩

-- What the reader of a command gets: flags lose the bits without a meaning, a compensation is cut
-- to whole microseconds, and a stream of maxima with the number for none is none.
def Command.onWire : Command → Command
  | .hello info => .hello info.onWire
  | .spaceDef space => .spaceDef space.onWire
  | .control space flags => .control space (flags.map TileFlags.onWire)
  | .safepoint event count compensation => .safepoint event count compensation.onWire
  | command => command

namespace Wire

open Reader

theorem value_restores (kind : ValueKind) : Restores (writeValue kind) (Reader.value kind) id := by
  intro value bytes written rest
  obtain ⟨held, rfl⟩ := write_value_ok written
  refine (bind_ok (number_append kind.width _ rest _ (kind.encode_length value))).trans ?_
  rw [kind.decode_encode value held]
  rfl

theorem write_value_length (kind : ValueKind) (value : Int32) (bytes : Bytes)
    (written : writeValue kind value = .ok bytes) : kind.width ≤ bytes.length := by
  obtain ⟨held, rfl⟩ := write_value_ok written
  exact Nat.le_of_eq (kind.encode_length value).symm

theorem write_text_length (text : String) (bytes : Bytes) (written : writeText text = .ok bytes) :
    2 ≤ bytes.length := by
  obtain ⟨small, rfl⟩ := write_text_ok written
  rw [List.length_append, Bytes.big_endian_length]
  omega

-- Summary values are written without a check, which is the checked writing of full words.
theorem write_ints (values : List Int32) :
    writeEach (writeValue .int) values = .ok (values.flatMap writeInt) := by
  induction values with
  | nil => rfl
  | cons value values ih =>
    have first : writeValue .int value = .ok (writeInt value) := if_pos (ValueKind.int_holds value)
    rw [write_each_cons, first, ih]
    rfl

theorem tile_names_restore (space : SpaceId) (names : List String) (bytes : Bytes)
    (written : writeFields (.tileNames space names) = .ok bytes) (rest : Bytes) :
    Reader.fields (Command.opcode (.tileNames space names)) (bytes ++ rest) =
      .ok (Command.onWire (.tileNames space names), rest) := by
  obtain ⟨count, countWritten, written⟩ := except_bind_ok written
  obtain ⟨body, bodyWritten, written⟩ := except_bind_ok written
  cases written
  obtain ⟨small, rfl⟩ := write_count_ok countWritten
  simp only [List.append_assoc, List.cons_append, List.nil_append]
  refine (bind_ok (space_id_cons space _)).trans ?_
  refine (counted_written (text_restores _) write_text_length names body rest bodyWritten _ small
    _).trans ?_
  rw [List.map_id]
  rfl

theorem stream_data_restore (space : SpaceId) (stream : StreamId) (kind : ValueKind)
    (values : List Int32) (bytes : Bytes)
    (written : writeFields (.streamData space stream kind values) = .ok bytes) (rest : Bytes) :
    Reader.fields (Command.opcode (.streamData space stream kind values)) (bytes ++ rest) =
      .ok (Command.onWire (.streamData space stream kind values), rest) := by
  obtain ⟨count, countWritten, written⟩ := except_bind_ok written
  obtain ⟨body, bodyWritten, written⟩ := except_bind_ok written
  cases written
  obtain ⟨small, rfl⟩ := write_count_ok countWritten
  simp only [List.append_assoc, List.cons_append, List.nil_append]
  refine (bind_ok (space_id_cons space _)).trans ?_
  refine (bind_ok (stream_id_cons stream _)).trans ?_
  refine (bind_ok (kind_cons kind _)).trans ?_
  refine (counted_written (value_restores kind) (write_value_length kind) values body rest bodyWritten
    _ small _).trans ?_
  rw [List.map_id]
  rfl

theorem control_restore (space : SpaceId) (flags : List TileFlags) (bytes : Bytes)
    (written : writeFields (.control space flags) = .ok bytes) (rest : Bytes) :
    Reader.fields (Command.opcode (.control space flags)) (bytes ++ rest) =
      .ok (Command.onWire (.control space flags), rest) := by
  obtain ⟨count, countWritten, written⟩ := except_bind_ok written
  cases written
  obtain ⟨small, rfl⟩ := write_count_ok countWritten
  have fits : flags.length * 1 ≤ (flags.map (·.bits) ++ rest).length := by simp
  have taken : take flags.length "control block" (flags.map (·.bits) ++ rest) =
      .ok (flags.map (·.bits), rest) := by
    simpa using take_append (flags.map (·.bits)) rest "control block"
  simp only [List.append_assoc, List.cons_append, List.nil_append]
  refine (bind_ok (space_id_cons space _)).trans ?_
  refine (bind_ok (entries_written _ 1 flags.length _ small fits)).trans ?_
  refine (bind_ok taken).trans ?_
  rw [List.map_map]
  rfl

theorem summary_restore (space : SpaceId) (stream : StreamId) (values : List Int32) (bytes : Bytes)
    (written : writeFields (.summary space stream values) = .ok bytes) (rest : Bytes) :
    Reader.fields (Command.opcode (.summary space stream values)) (bytes ++ rest) =
      .ok (Command.onWire (.summary space stream values), rest) := by
  obtain ⟨count, countWritten, written⟩ := except_bind_ok written
  cases written
  obtain ⟨small, rfl⟩ := write_count_ok countWritten
  have restored : Restores (writeValue .int) (Reader.int "summary value") id := by
    intro value bytes valueWritten following
    obtain ⟨held, rfl⟩ := write_value_ok valueWritten
    exact int_written value following _
  simp only [List.append_assoc, List.cons_append, List.nil_append]
  refine (bind_ok (space_id_cons space _)).trans ?_
  refine (bind_ok (stream_id_cons stream _)).trans ?_
  refine (counted_written restored (write_value_length .int) values _ rest (write_ints values) _ small
    _).trans ?_
  rw [List.map_id]
  rfl

theorem fields_restore (command : Command) (bytes : Bytes)
    (written : writeFields command = .ok bytes) (rest : Bytes) :
    Reader.fields command.opcode (bytes ++ rest) = .ok (command.onWire, rest) := by
  cases command with
  | hello info => exact bind_ok (server_restores info bytes written rest)
  | spaceDef space => exact bind_ok (space_restores space bytes written rest)
  | spaceBegin space event tileCount =>
    cases written
    simp only [List.append_assoc, List.cons_append, List.nil_append]
    refine (bind_ok (space_id_cons space _)).trans ?_
    refine (bind_ok (event_id_written event _)).trans ?_
    exact bind_ok (count32_written tileCount rest _)
  | tileNames space names => exact tile_names_restore space names bytes written rest
  | streamData space stream kind values =>
    exact stream_data_restore space stream kind values bytes written rest
  | control space flags => exact control_restore space flags bytes written rest
  | summary space stream values => exact summary_restore space stream values bytes written rest
  | spaceInfo space info =>
    obtain ⟨text, textWritten, written⟩ := except_bind_ok written
    cases written
    simp only [List.cons_append, List.nil_append]
    refine (bind_ok (space_id_cons space _)).trans ?_
    exact bind_ok (text_restores _ info text textWritten rest)
  | spaceEnd space =>
    cases written
    exact bind_ok (space_id_cons space rest)
  | safepoint event count compensation =>
    cases written
    simp only [List.append_assoc]
    refine (bind_ok (event_id_written event _)).trans ?_
    refine (bind_ok (count32_written count _ _)).trans ?_
    exact bind_ok (number_written 8 compensation.microseconds rest _ compensation.microseconds_lt)
  | enableEvent event enabled =>
    cases written
    simp only [List.append_assoc]
    refine (bind_ok (event_id_written event _)).trans ?_
    exact bind_ok (bool_written enabled rest _)
  | shutdown | play | pause | step | disconnect =>
    cases written
    rfl

namespace Reader

theorem commands_after_command {opcode : UInt8} {bytes rest : Bytes} {command : Command}
    (reached : fields opcode bytes = .ok (command, rest)) (found : List Command) :
    commandsAfter found (opcode :: bytes) = commandsAfter (command :: found) rest := by
  rw [commandsAfter]
  split
  · rename_i fault failed
    rw [reached] at failed
    cases failed
  · rename_i other left same
    rw [reached] at same
    cases same
    rfl

theorem commands_after_fault {opcode : UInt8} {bytes : Bytes} {fault : Fault}
    (failed : fields opcode bytes = .error fault) (found : List Command) :
    commandsAfter found (opcode :: bytes) = .error fault := by
  rw [commandsAfter]
  split
  · rename_i other same
    rw [failed] at same
    cases same
    rfl
  · rename_i command rest reached
    rw [failed] at reached
    cases reached

theorem commands_after_earlier (found : List Command) (bytes : Bytes) (earlier : List Command) :
    commandsAfter (found ++ earlier) bytes =
      (commandsAfter found bytes).map (earlier.reverse ++ ·) := by
  induction found, bytes using commandsAfter.induct with
  | case1 found => simp [commandsAfter, Except.map]
  | case2 found opcode bytes fault failed =>
    rw [commands_after_fault failed, commands_after_fault failed, Except.map]
  | case3 found opcode bytes command rest reached shorter ih =>
    rw [commands_after_command reached, commands_after_command reached]
    exact ih

theorem commands_nil : commands [] = .ok [] := by
  rw [commands, commandsAfter, List.reverse_nil]

theorem commands_cons {opcode : UInt8} {bytes rest : Bytes} {command : Command}
    (reached : fields opcode bytes = .ok (command, rest)) :
    commands (opcode :: bytes) = (commands rest).map (command :: ·) := by
  rw [commands, commands_after_command reached]
  exact commands_after_earlier [] rest [command]

theorem commands_fault {opcode : UInt8} {bytes : Bytes} {fault : Fault}
    (failed : fields opcode bytes = .error fault) : commands (opcode :: bytes) = .error fault :=
  commands_after_fault failed []

theorem map_ok {result : Except Fault α} {change : α → β} {item : β}
    (done : result.map change = .ok item) : ∃ found, result = .ok found ∧ change found = item := by
  cases result with
  | error fault => cases done
  | ok found => exact ⟨found, rfl, Except.ok.inj done⟩

theorem commands_cons_ok {bytes : Bytes} {command : Command} {others : List Command}
    (read : commands bytes = .ok (command :: others)) :
    ∃ opcode fieldBytes rest, bytes = opcode :: fieldBytes ∧
      fields opcode fieldBytes = .ok (command, rest) ∧ commands rest = .ok others := by
  cases bytes with
  | nil =>
    rw [commands_nil] at read
    cases read
  | cons opcode bytes =>
    cases reached : fields opcode bytes with
    | error fault =>
      rw [commands_fault reached] at read
      cases read
    | ok done =>
      obtain ⟨first, rest⟩ := done
      rw [commands_cons reached] at read
      obtain ⟨found, behind, same⟩ := map_ok read
      cases same
      exact ⟨opcode, bytes, rest, rfl, reached, behind⟩

theorem commands_ok_nil {bytes : Bytes} (read : commands bytes = .ok []) : bytes = [] := by
  cases bytes with
  | nil => rfl
  | cons opcode bytes =>
    cases reached : fields opcode bytes with
    | error fault =>
      rw [commands_fault reached] at read
      cases read
    | ok done =>
      rw [commands_cons reached] at read
      obtain ⟨found, _, same⟩ := map_ok read
      cases same

end Reader

theorem commands_written (commands : List Command) (payload : Bytes)
    (written : writeEach encode commands = .ok payload) :
    Reader.commands payload = .ok (commands.map Command.onWire) := by
  induction commands generalizing payload with
  | nil =>
    cases written
    exact Reader.commands_nil
  | cons command commands ih =>
    obtain ⟨front, back, first, others, rfl⟩ := write_each_cons_ok written
    obtain ⟨fields, fieldsWritten, first⟩ := except_bind_ok first
    cases first
    have restored := fields_restore command fields fieldsWritten back
    rw [List.cons_append, Reader.commands_cons restored, ih back others]
    rfl

theorem decode_written (commands : List Command) (payload : Bytes)
    (written : writeEach encode commands = .ok payload) :
    decode payload = .ok (commands.map Command.onWire) := by
  simp only [decode, commands_written commands payload written]

end Wire

end HeapScope
