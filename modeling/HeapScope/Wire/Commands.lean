import HeapScope.Command
import HeapScope.Wire.Descriptors

namespace HeapScope.Wire

def writeFields : Command → Except Error Bytes
  | .hello info => writeServer info
  | .spaceDef space => writeSpace space
  | .spaceBegin space event tileCount =>
    return [space.number] ++ Bytes.bigEndian 2 event.index ++ Bytes.bigEndian 4 tileCount.toNat
  | .tileNames space names => do
    let count ← writeCount 4 "tile names" names.length
    let names ← writeEach writeText names
    return [space.number] ++ count ++ names
  | .streamData space stream kind values => do
    let count ← writeCount 4 "stream values" values.length
    let values ← writeEach (writeValue kind) values
    return [space.number, stream.number, kind.code] ++ count ++ values
  | .control space flags => do
    let count ← writeCount 4 "control block" flags.length
    return [space.number] ++ count ++ flags.map (·.bits)
  | .summary space stream values => do
    let count ← writeCount 4 "summary values" values.length
    return [space.number, stream.number] ++ count ++ values.flatMap writeInt
  | .spaceInfo space info => do
    let info ← writeText info
    return [space.number] ++ info
  | .spaceEnd space => return [space.number]
  | .safepoint event count compensation =>
    return Bytes.bigEndian 2 event.index ++ Bytes.bigEndian 4 count.toNat
      ++ Bytes.bigEndian 8 compensation.microseconds
  | .enableEvent event enabled => return Bytes.bigEndian 2 event.index ++ writeBool enabled
  | .shutdown | .play | .pause | .step | .disconnect => return []

def encode (command : Command) : Except Error Bytes := do
  let fields ← writeFields command
  return command.opcode :: fields

namespace Reader

def value (kind : ValueKind) : Reader Int32 := do
  let n ← number kind.width (kind.text ++ " value")
  return kind.decode n

def fields (opcode : UInt8) : Reader Command :=
  match opcode with
  | 0x01 => return .hello (← server)
  | 0x02 => return .spaceDef (← space)
  | 0x03 => do
    let space ← spaceId
    let event ← eventId
    let tileCount ← count32 "tile count"
    return .spaceBegin space event tileCount
  | 0x04 => do
    let space ← spaceId
    let count ← entries "tile names" 2
    let names ← many (text "tile name") count
    return .tileNames space names
  | 0x05 => do
    let space ← spaceId
    let stream ← streamId
    let kind ← kind
    let count ← entries "stream values" kind.width
    let values ← many (value kind) count
    return .streamData space stream kind values
  | 0x06 => do
    let space ← spaceId
    let count ← entries "control block" 1
    let bits ← take count "control block"
    return .control space (bits.map TileFlags.ofByte)
  | 0x07 => do
    let space ← spaceId
    let stream ← streamId
    let count ← entries "summary values" 4
    let values ← many (int "summary value") count
    return .summary space stream values
  | 0x08 => do
    let space ← spaceId
    let info ← text "space info"
    return .spaceInfo space info
  | 0x09 => return .spaceEnd (← spaceId)
  | 0x0a => do
    let event ← eventId
    let count ← count32 "event count"
    let compensation ← number 8 "compensation"
    return .safepoint event count (Duration.ofMicroseconds compensation)
  | 0x0b => return .shutdown
  | 0x81 => return .play
  | 0x82 => return .pause
  | 0x83 => return .step
  | 0x84 => do
    let event ← eventId
    let enabled ← bool "enabled flag"
    return .enableEvent event enabled
  | 0x85 => return .disconnect
  | other => fun rest => .error (.unknownOpcode other (rest.length + 1))

theorem forward_value (kind : ValueKind) : Forward (value kind) :=
  forward_bind (forward_number _ _) fun _ => forward_pure _

theorem forward_fields (opcode : UInt8) : Forward (fields opcode) := by
  unfold fields
  split
  · exact forward_bind forward_server fun _ => forward_pure _
  · exact forward_bind forward_space fun _ => forward_pure _
  · exact
      forward_bind forward_space_id fun _ =>
      forward_bind forward_event_id fun _ =>
      forward_bind (forward_count32 _) fun _ => forward_pure _
  · exact
      forward_bind forward_space_id fun _ =>
      forward_bind (forward_entries _ _) fun _ =>
      forward_bind (forward_many (forward_text _) _) fun _ => forward_pure _
  · exact
      forward_bind forward_space_id fun _ =>
      forward_bind forward_stream_id fun _ =>
      forward_bind forward_kind fun kind =>
      forward_bind (forward_entries _ _) fun _ =>
      forward_bind (forward_many (forward_value kind) _) fun _ => forward_pure _
  · exact
      forward_bind forward_space_id fun _ =>
      forward_bind (forward_entries _ _) fun _ =>
      forward_bind (forward_take _ _) fun _ => forward_pure _
  · exact
      forward_bind forward_space_id fun _ =>
      forward_bind forward_stream_id fun _ =>
      forward_bind (forward_entries _ _) fun _ =>
      forward_bind (forward_many (forward_int _) _) fun _ => forward_pure _
  · exact
      forward_bind forward_space_id fun _ =>
      forward_bind (forward_text _) fun _ => forward_pure _
  · exact forward_bind forward_space_id fun _ => forward_pure _
  · exact
      forward_bind forward_event_id fun _ =>
      forward_bind (forward_count32 _) fun _ =>
      forward_bind (forward_number _ _) fun _ => forward_pure _
  · exact forward_pure _
  · exact forward_pure _
  · exact forward_pure _
  · exact forward_pure _
  · exact
      forward_bind forward_event_id fun _ =>
      forward_bind (forward_bool _) fun _ => forward_pure _
  · exact forward_pure _
  · intro bytes item rest done
    cases done

def commandsAfter (found : List Command) : Bytes → Except Fault (List Command)
  | [] => .ok found.reverse
  | opcode :: bytes =>
    match reached : fields opcode bytes with
    | .error fault => .error fault
    | .ok (command, rest) =>
      have : rest.length ≤ bytes.length :=
        (forward_fields opcode bytes command rest reached).length_le
      commandsAfter (command :: found) rest
termination_by bytes => bytes.length
decreasing_by
  simp only [List.length_cons]
  omega

def commands (bytes : Bytes) : Except Fault (List Command) := commandsAfter [] bytes

end Reader

def decode (payload : Bytes) : Except Error (List Command) :=
  match Reader.commands payload with
  | .ok commands => .ok commands
  | .error fault => .error (.malformed (fault.reason payload.length))

end HeapScope.Wire
