import HeapScope.Proofs.Wire.Fields
import HeapScope.Proofs.Wire.Numbers

namespace HeapScope

def StreamDescriptor.onWire (stream : StreamDescriptor) : StreamDescriptor :=
  { stream with
    maxStream := if stream.maxStream = some ⟨Wire.noStream⟩ then none else stream.maxStream }

def SpaceDescriptor.onWire (space : SpaceDescriptor) : SpaceDescriptor :=
  { space with streams := space.streams.map StreamDescriptor.onWire }

def ServerInfo.onWire (info : ServerInfo) : ServerInfo :=
  { info with spaces := info.spaces.map SpaceDescriptor.onWire }

namespace Wire

namespace Reader

theorem space_id_cons (space : SpaceId) (rest : Bytes) :
    spaceId (space.number :: rest) = .ok (space, rest) :=
  bind_ok (byte_cons _ rest _)

theorem stream_id_cons (stream : StreamId) (rest : Bytes) :
    streamId (stream.number :: rest) = .ok (stream, rest) :=
  bind_ok (byte_cons _ rest _)

theorem byte_written (n : Nat) (rest : Bytes) (what : String) :
    byte what (Bytes.bigEndian 1 n ++ rest) = .ok (UInt8.ofNat n, rest) :=
  byte_cons (UInt8.ofNat n) rest what

theorem byte_count {n : Nat} (small : n < 256 ^ 1) : (UInt8.ofNat n).toNat = n :=
  UInt8.toNat_ofNat_of_lt' small

theorem event_id_written (event : EventId) (rest : Bytes) :
    eventId (Bytes.bigEndian 2 event.index ++ rest) = .ok (event, rest) := by
  have small : event.index < 256 ^ 2 := event.number.toNat_lt
  have same : UInt16.ofNat event.index = event.number := UInt16.ofNat_toNat
  refine (bind_ok (number_written 2 event.index rest _ small)).trans ?_
  rw [same]
  rfl

theorem count32_written (n : UInt32) (rest : Bytes) (what : String) :
    count32 what (Bytes.bigEndian 4 n.toNat ++ rest) = .ok (n, rest) := by
  have small : n.toNat < 256 ^ 4 := n.toNat_lt
  refine (bind_ok (number_written 4 n.toNat rest what small)).trans ?_
  rw [UInt32.ofNat_toNat]
  rfl

theorem int_written (value : Int32) (rest : Bytes) (what : String) :
    int what (writeInt value ++ rest) = .ok (value, rest) := by
  have long : (writeInt value).length = 4 := ValueKind.encode_length .int value
  have back : ValueKind.int.decode (Bytes.number (writeInt value)) = value :=
    ValueKind.decode_encode .int value (ValueKind.int_holds value)
  refine (bind_ok (number_append 4 (writeInt value) rest what long)).trans ?_
  rw [back]
  rfl

theorem kind_cons (written : ValueKind) (rest : Bytes) :
    kind (written.code :: rest) = .ok (written, rest) := by
  refine (bind_ok (byte_cons _ rest _)).trans ?_
  rw [ValueKind.code_read_back]
  rfl

theorem presentation_cons (written : Presentation) (rest : Bytes) :
    presentation (written.code :: rest) = .ok (written, rest) := by
  refine (bind_ok (byte_cons _ rest _)).trans ?_
  rw [Presentation.code_read_back]
  rfl

theorem paint_style_cons (written : PaintStyle) (rest : Bytes) :
    paintStyle (written.code :: rest) = .ok (written, rest) := by
  refine (bind_ok (byte_cons _ rest _)).trans ?_
  rw [PaintStyle.code_read_back]
  rfl

theorem max_stream_cons (written : Option StreamId) (rest : Bytes) :
    maxStream ((written.map (·.number)).getD noStream :: rest) =
      .ok (if written = some ⟨noStream⟩ then none else written, rest) := by
  refine (bind_ok (byte_cons _ rest _)).trans ?_
  cases written with
  | none => rfl
  | some id =>
    obtain ⟨code⟩ := id
    by_cases absent : code = noStream
    · subst absent
      rfl
    · have other : (some ⟨code⟩ : Option StreamId) ≠ some ⟨noStream⟩ := by simp [absent]
      simp only [Option.map_some, Option.getD_some, if_neg absent, if_neg other]
      rfl

theorem color_cons (written : Color) (rest : Bytes) :
    color (written.red :: written.green :: written.blue :: rest) = .ok (written, rest) := by
  obtain ⟨red, green, blue⟩ := written
  have redBound := red.toNat_lt
  have greenBound := green.toNat_lt
  have blueBound := blue.toNat_lt
  have value : Bytes.number [red, green, blue] =
      (red.toNat * 256 + green.toNat) * 256 + blue.toNat := by simp [Bytes.number]
  have first : UInt8.ofNat (Bytes.number [red, green, blue] / 65536) = red := by
    apply UInt8.toNat_inj.mp
    rw [value, UInt8.toNat_ofNat']
    omega
  have second : UInt8.ofNat (Bytes.number [red, green, blue] / 256) = green := by
    apply UInt8.toNat_inj.mp
    rw [value, UInt8.toNat_ofNat']
    omega
  have third : UInt8.ofNat (Bytes.number [red, green, blue]) = blue := by
    apply UInt8.toNat_inj.mp
    rw [value, UInt8.toNat_ofNat']
    omega
  refine (bind_ok (number_append 3 [red, green, blue] rest _ rfl)).trans ?_
  rw [first, second, third]
  rfl

end Reader

open Reader

theorem stream_restores : Restores writeStream Reader.stream StreamDescriptor.onWire := by
  intro stream bytes written rest
  obtain ⟨name, nameWritten, written⟩ := except_bind_ok written
  obtain ⟨before, beforeWritten, written⟩ := except_bind_ok written
  obtain ⟨after, afterWritten, written⟩ := except_bind_ok written
  cases written
  simp only [List.append_assoc, List.cons_append, List.nil_append]
  refine (bind_ok (stream_id_cons stream.id _)).trans ?_
  refine (bind_ok (text_restores _ stream.name name nameWritten _)).trans ?_
  refine (bind_ok (kind_cons stream.kind _)).trans ?_
  refine (bind_ok (int_written stream.minValue _ _)).trans ?_
  refine (bind_ok (int_written stream.maxValue _ _)).trans ?_
  refine (bind_ok (int_written stream.zeroValue _ _)).trans ?_
  refine (bind_ok (int_written stream.defaultValue _ _)).trans ?_
  refine (bind_ok (text_restores _ stream.labelBefore before beforeWritten _)).trans ?_
  refine (bind_ok (text_restores _ stream.labelAfter after afterWritten _)).trans ?_
  refine (bind_ok (presentation_cons stream.presentation _)).trans ?_
  refine (bind_ok (paint_style_cons stream.paintStyle _)).trans ?_
  refine (bind_ok (max_stream_cons stream.maxStream _)).trans ?_
  refine (bind_ok (color_cons stream.color _)).trans ?_
  exact bind_ok (bool_written stream.summary rest _)

theorem space_restores : Restores writeSpace Reader.space SpaceDescriptor.onWire := by
  intro space bytes written rest
  obtain ⟨name, nameWritten, written⟩ := except_bind_ok written
  obtain ⟨driverName, driverNameWritten, written⟩ := except_bind_ok written
  obtain ⟨title, titleWritten, written⟩ := except_bind_ok written
  obtain ⟨blockInfo, blockInfoWritten, written⟩ := except_bind_ok written
  obtain ⟨unusedLabel, unusedLabelWritten, written⟩ := except_bind_ok written
  obtain ⟨count, countWritten, written⟩ := except_bind_ok written
  obtain ⟨streams, streamsWritten, written⟩ := except_bind_ok written
  cases written
  obtain ⟨small, rfl⟩ := write_count_ok countWritten
  simp only [List.append_assoc, List.cons_append, List.nil_append, writeBool]
  refine (bind_ok (space_id_cons space.id _)).trans ?_
  refine (bind_ok (text_restores _ space.name name nameWritten _)).trans ?_
  refine (bind_ok (text_restores _ space.driverName driverName driverNameWritten _)).trans ?_
  refine (bind_ok (text_restores _ space.title title titleWritten _)).trans ?_
  refine (bind_ok (text_restores _ space.blockInfo blockInfo blockInfoWritten _)).trans ?_
  refine (bind_ok (count32_written space.tileCount _ _)).trans ?_
  refine (bind_ok (text_restores _ space.unusedLabel unusedLabel unusedLabelWritten _)).trans ?_
  refine (bind_ok (byte_cons _ _ _)).trans ?_
  refine (bind_ok (byte_written space.streams.length _ _)).trans ?_
  rw [byte_count small]
  refine (bind_ok (many_restores stream_restores space.streams streams rest streamsWritten)).trans ?_
  have flag : decide ((if space.mainSpace then 1 else 0 : UInt8) &&& 1 = 1) = space.mainSpace := by
    cases space.mainSpace <;> rfl
  rw [flag]
  rfl

theorem server_restores : Restores writeServer Reader.server ServerInfo.onWire := by
  intro info bytes written rest
  obtain ⟨name, nameWritten, written⟩ := except_bind_ok written
  obtain ⟨version, versionWritten, written⟩ := except_bind_ok written
  obtain ⟨generalInfo, generalInfoWritten, written⟩ := except_bind_ok written
  obtain ⟨eventCount, eventCountWritten, written⟩ := except_bind_ok written
  obtain ⟨events, eventsWritten, written⟩ := except_bind_ok written
  obtain ⟨spaceCount, spaceCountWritten, written⟩ := except_bind_ok written
  obtain ⟨spaces, spacesWritten, written⟩ := except_bind_ok written
  cases written
  obtain ⟨fewEvents, rfl⟩ := write_count_ok eventCountWritten
  obtain ⟨fewSpaces, rfl⟩ := write_count_ok spaceCountWritten
  simp only [List.append_assoc, List.cons_append, List.nil_append]
  refine (bind_ok (byte_cons protocolVersion _ _)).trans ?_
  rw [if_neg (by simp)]
  refine (bind_ok (text_restores _ info.name name nameWritten _)).trans ?_
  refine (bind_ok (text_restores _ info.version version versionWritten _)).trans ?_
  refine (bind_ok (text_restores _ info.generalInfo generalInfo generalInfoWritten _)).trans ?_
  refine (bind_ok (number_written 2 info.events.length _ _ fewEvents)).trans ?_
  refine (bind_ok (many_restores (text_restores _) info.events events _ eventsWritten)).trans ?_
  refine (bind_ok (byte_written info.spaces.length _ _)).trans ?_
  rw [byte_count fewSpaces]
  refine (bind_ok (many_restores space_restores info.spaces spaces rest spacesWritten)).trans ?_
  rw [List.map_id]
  rfl

end Wire

end HeapScope
