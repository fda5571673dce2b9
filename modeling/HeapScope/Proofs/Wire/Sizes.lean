import HeapScope.Proofs.Wire.Fields
import HeapScope.Proofs.Wire.Numbers
import HeapScope.Wire.Commands

namespace HeapScope

def textSize (text : String) : Nat := 2 + text.utf8ByteSize

def StreamDescriptor.wireSize (stream : StreamDescriptor) : Nat :=
  25 + textSize stream.name + textSize stream.labelBefore + textSize stream.labelAfter

namespace SpaceDescriptor

def headSize (space : SpaceDescriptor) : Nat :=
  5 + textSize space.name + textSize space.driverName + textSize space.title
    + textSize space.blockInfo + textSize space.unusedLabel

def tailSize (space : SpaceDescriptor) : Nat :=
  1 + (space.streams.map StreamDescriptor.wireSize).sum

def wireSize (space : SpaceDescriptor) : Nat := space.headSize + 1 + space.tailSize

end SpaceDescriptor

namespace ServerInfo

def headSize (info : ServerInfo) : Nat :=
  4 + textSize info.name + textSize info.version + textSize info.generalInfo
    + (info.events.map textSize).sum

def wireSize (info : ServerInfo) : Nat :=
  info.headSize + (info.spaces.map SpaceDescriptor.wireSize).sum

end ServerInfo

def Command.wireSize : Command → Nat
  | .hello info => 1 + info.wireSize
  | .spaceDef space => 1 + space.wireSize
  | .spaceBegin .. => 8
  | .tileNames _ names => 6 + (names.map textSize).sum
  | .streamData _ _ kind values => 8 + values.length * kind.width
  | .control _ flags => 6 + flags.length
  | .summary _ _ values => 7 + values.length * 4
  | .spaceInfo _ info => 2 + textSize info
  | .spaceEnd _ => 2
  | .safepoint .. => 15
  | .enableEvent .. => 4
  | .shutdown | .play | .pause | .step | .disconnect => 1

namespace Wire

theorem write_text_size {text : String} {bytes : Bytes} (written : writeText text = .ok bytes) :
    bytes.length = textSize text := by
  obtain ⟨_, rfl⟩ := write_text_ok written
  rw [List.length_append, Bytes.big_endian_length, Utf8.encode_length, textSize]

theorem write_count_size {width : Nat} {what : String} {count : Nat} {bytes : Bytes}
    (written : writeCount width what count = .ok bytes) : bytes.length = width := by
  obtain ⟨_, rfl⟩ := write_count_ok written
  exact Bytes.big_endian_length width count

theorem write_each_size {write : α → Except Error Bytes} (size : α → Nat)
    (each : ∀ item bytes, write item = .ok bytes → bytes.length = size item) {items : List α}
    {bytes : Bytes} (written : writeEach write items = .ok bytes) :
    bytes.length = (items.map size).sum := by
  induction items generalizing bytes with
  | nil =>
    cases written
    rfl
  | cons item items ih =>
    obtain ⟨front, back, first, others, rfl⟩ := write_each_cons_ok written
    rw [List.length_append, each item front first, ih others, List.map_cons, List.sum_cons]

theorem write_values_size {kind : ValueKind} {values : List Int32} {bytes : Bytes}
    (written : writeEach (writeValue kind) values = .ok bytes) :
    bytes.length = values.length * kind.width := by
  have sized := write_each_size (fun _ => kind.width) (fun value bytes one => by
    obtain ⟨_, rfl⟩ := write_value_ok one
    exact kind.encode_length value) written
  rw [sized, List.map_const', List.sum_replicate_nat]

theorem write_int_size (value : Int32) : (writeInt value).length = 4 :=
  ValueKind.encode_length .int value

theorem write_ints_size (values : List Int32) :
    (values.flatMap writeInt).length = values.length * 4 := by
  induction values with
  | nil => rfl
  | cons value values ih =>
    rw [List.flatMap_cons, List.length_append, write_int_size, ih, List.length_cons]
    omega

theorem write_stream_size {stream : StreamDescriptor} {bytes : Bytes}
    (written : writeStream stream = .ok bytes) : bytes.length = stream.wireSize := by
  obtain ⟨name, nameWritten, written⟩ := except_bind_ok written
  obtain ⟨before, beforeWritten, written⟩ := except_bind_ok written
  obtain ⟨after, afterWritten, written⟩ := except_bind_ok written
  cases written
  have texts := write_text_size nameWritten
  have textsBefore := write_text_size beforeWritten
  have textsAfter := write_text_size afterWritten
  simp only [List.length_append, List.length_cons, List.length_nil, write_int_size, writeBool,
    StreamDescriptor.wireSize]
  omega

theorem write_space_size {space : SpaceDescriptor} {bytes : Bytes}
    (written : writeSpace space = .ok bytes) : bytes.length = space.wireSize := by
  obtain ⟨name, nameWritten, written⟩ := except_bind_ok written
  obtain ⟨driverName, driverNameWritten, written⟩ := except_bind_ok written
  obtain ⟨title, titleWritten, written⟩ := except_bind_ok written
  obtain ⟨blockInfo, blockInfoWritten, written⟩ := except_bind_ok written
  obtain ⟨unusedLabel, unusedLabelWritten, written⟩ := except_bind_ok written
  obtain ⟨count, countWritten, written⟩ := except_bind_ok written
  obtain ⟨streams, streamsWritten, written⟩ := except_bind_ok written
  cases written
  have streamsSize := write_each_size StreamDescriptor.wireSize (fun _ _ => write_stream_size) streamsWritten
  simp only [List.length_append, List.length_cons, List.length_nil, Bytes.big_endian_length, writeBool,
    write_text_size nameWritten, write_text_size driverNameWritten, write_text_size titleWritten,
    write_text_size blockInfoWritten, write_text_size unusedLabelWritten,
    write_count_size countWritten, streamsSize, SpaceDescriptor.wireSize, SpaceDescriptor.headSize,
    SpaceDescriptor.tailSize]
  omega

theorem write_server_size {info : ServerInfo} {bytes : Bytes}
    (written : writeServer info = .ok bytes) : bytes.length = info.wireSize := by
  obtain ⟨name, nameWritten, written⟩ := except_bind_ok written
  obtain ⟨version, versionWritten, written⟩ := except_bind_ok written
  obtain ⟨generalInfo, generalInfoWritten, written⟩ := except_bind_ok written
  obtain ⟨eventCount, eventCountWritten, written⟩ := except_bind_ok written
  obtain ⟨events, eventsWritten, written⟩ := except_bind_ok written
  obtain ⟨spaceCount, spaceCountWritten, written⟩ := except_bind_ok written
  obtain ⟨spaces, spacesWritten, written⟩ := except_bind_ok written
  cases written
  have eventsSize := write_each_size textSize (fun _ _ => write_text_size) eventsWritten
  have spacesSize := write_each_size SpaceDescriptor.wireSize (fun _ _ => write_space_size) spacesWritten
  simp only [List.length_append, List.length_cons, List.length_nil, write_text_size nameWritten,
    write_text_size versionWritten, write_text_size generalInfoWritten,
    write_count_size eventCountWritten, write_count_size spaceCountWritten, eventsSize, spacesSize,
    ServerInfo.wireSize, ServerInfo.headSize]
  omega

theorem write_fields_size {command : Command} {bytes : Bytes}
    (written : writeFields command = .ok bytes) : bytes.length + 1 = command.wireSize := by
  cases command with
  | hello info =>
    have size := write_server_size written
    rw [Command.wireSize, size, Nat.add_comm]
  | spaceDef space =>
    have size := write_space_size written
    rw [Command.wireSize, size, Nat.add_comm]
  | tileNames space names =>
    obtain ⟨count, countWritten, written⟩ := except_bind_ok written
    obtain ⟨body, bodyWritten, written⟩ := except_bind_ok written
    cases written
    have size := write_each_size textSize (fun _ _ => write_text_size) bodyWritten
    simp only [List.length_append, List.length_cons, List.length_nil, write_count_size countWritten,
      size, Command.wireSize]
    omega
  | streamData space stream kind values =>
    obtain ⟨count, countWritten, written⟩ := except_bind_ok written
    obtain ⟨body, bodyWritten, written⟩ := except_bind_ok written
    cases written
    simp only [List.length_append, List.length_cons, List.length_nil, write_count_size countWritten,
      write_values_size bodyWritten, Command.wireSize]
    omega
  | control space flags =>
    obtain ⟨count, countWritten, written⟩ := except_bind_ok written
    cases written
    simp only [List.length_append, List.length_cons, List.length_nil, write_count_size countWritten,
      List.length_map, Command.wireSize]
    omega
  | summary space stream values =>
    obtain ⟨count, countWritten, written⟩ := except_bind_ok written
    cases written
    simp only [List.length_append, List.length_cons, List.length_nil, write_count_size countWritten,
      write_ints_size, Command.wireSize]
    omega
  | spaceInfo space info =>
    obtain ⟨text, textWritten, written⟩ := except_bind_ok written
    cases written
    simp only [List.length_append, List.length_cons, List.length_nil, write_text_size textWritten,
      Command.wireSize]
    omega
  | spaceBegin | spaceEnd | safepoint | enableEvent =>
    cases written
    simp only [List.length_append, List.length_cons, List.length_nil, Bytes.big_endian_length,
      writeBool, Command.wireSize]
  | shutdown | play | pause | step | disconnect =>
    cases written
    rfl

theorem encode_size {command : Command} {bytes : Bytes} (written : encode command = .ok bytes) :
    bytes.length = command.wireSize := by
  obtain ⟨fields, fieldsWritten, written⟩ := except_bind_ok written
  cases written
  exact write_fields_size fieldsWritten

end Wire

end HeapScope
