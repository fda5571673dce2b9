import HeapScope.Proofs.Wire.Descriptors
import HeapScope.Proofs.Wire.Exactness
import HeapScope.Proofs.Wire.Sizes

/- The bits of a written form that have a meaning. All have one, but for seven of the flags of a space and
   three of every entry of a control block; a reader overlooks those and a writer clears them. What is
   read is thus written again as it was, but for the bits without a meaning (`Rewritten`). -/
namespace HeapScope

namespace Wire

def solid (n : Nat) : Bytes := List.replicate n 0xff

def cleared (mask bytes : Bytes) : Bytes := List.zipWith (· &&& ·) bytes mask

end Wire

open Wire

def SpaceDescriptor.significant (space : SpaceDescriptor) : Bytes :=
  solid space.headSize ++ 0x01 :: solid space.tailSize

def ServerInfo.significant (info : ServerInfo) : Bytes :=
  solid info.headSize ++ info.spaces.flatMap SpaceDescriptor.significant

def Command.significant : Command → Bytes
  | .hello info => solid 1 ++ info.significant
  | .spaceDef space => solid 1 ++ space.significant
  | .control _ flags => solid 6 ++ flags.map fun _ => 0x1f
  | command => solid command.wireSize

namespace Wire

theorem solid_length (n : Nat) : (solid n).length = n := List.length_replicate

theorem cleared_solid (bytes : Bytes) : cleared (solid bytes.length) bytes = bytes := by
  have kept (byte : UInt8) : byte &&& 0xff = byte := by
    have all : (0xff : UInt8) = -1 := rfl
    rw [all, UInt8.and_neg_one]
  induction bytes with
  | nil => rfl
  | cons byte bytes ih =>
    change (byte &&& 0xff) :: cleared (solid bytes.length) bytes = byte :: bytes
    rw [kept, ih]

theorem cleared_append {mask front : Bytes} (same : front.length = mask.length) (more back : Bytes) :
    cleared (mask ++ more) (front ++ back) = cleared mask front ++ cleared more back :=
  List.zipWith_append same

def Rewritten (write : α → Except Error Bytes) (mask : α → Bytes) (item : α) (front : Bytes) : Prop :=
  front.length = (mask item).length ∧ write item = .ok (cleared (mask item) front)

theorem rewritten_behind {write : α → Except Error Bytes} {mask : α → Bytes} {item : α}
    {head tail : Bytes} (more : Bytes) (masked : mask item = solid head.length ++ more)
    (same : tail.length = more.length) (written : write item = .ok (head ++ cleared more tail)) :
    Rewritten write mask item (head ++ tail) := by
  rw [Rewritten, masked, cleared_append (solid_length _).symm, cleared_solid]
  refine ⟨?_, written⟩
  rw [List.length_append, List.length_append, solid_length, same]

namespace Reader

theorem space_id_takes : Takes spaceId fun space front => front = [space.number] := by
  refine takes_bind (byte_takes _) ?_
  rintro byte front rfl
  exact takes_pure rfl

theorem stream_id_takes : Takes streamId fun stream front => front = [stream.number] := by
  refine takes_bind (byte_takes _) ?_
  rintro byte front rfl
  exact takes_pure rfl

theorem event_id_takes : Takes eventId fun event front => front = Bytes.bigEndian 2 event.index := by
  refine takes_bind (number_takes 2 _) ?_
  rintro n front ⟨rfl, small⟩
  have same : (UInt16.ofNat n).toNat = n := UInt16.toNat_ofNat_of_lt' small
  refine takes_pure ?_
  rw [EventId.index, same, List.append_nil]

theorem count32_takes (what : String) :
    Takes (count32 what) fun n front => front = Bytes.bigEndian 4 n.toNat := by
  refine takes_bind (number_takes 4 what) ?_
  rintro n front ⟨rfl, small⟩
  have same : (UInt32.ofNat n).toNat = n := UInt32.toNat_ofNat_of_lt' small
  refine takes_pure ?_
  rw [same, List.append_nil]

theorem int_takes (what : String) : Takes (int what) fun value front => front = writeInt value := by
  refine takes_bind (number_takes 4 what) ?_
  rintro n front ⟨rfl, small⟩
  refine takes_pure ?_
  rw [writeInt, (ValueKind.int.decode_number n small).2, List.append_nil]
  rfl

theorem kind_takes : Takes kind fun kind front => front = [kind.code] := by
  refine takes_bind (byte_takes _) ?_
  rintro code front rfl
  split
  · rename_i kind known
    refine takes_pure ?_
    rw [ValueKind.code_of_known known, List.append_nil]
  · exact takes_fail _ _

theorem presentation_takes :
    Takes presentation fun presentation front => front = [presentation.code] := by
  refine takes_bind (byte_takes _) ?_
  rintro code front rfl
  split
  · rename_i presentation known
    refine takes_pure ?_
    rw [Presentation.code_of_known known, List.append_nil]
  · exact takes_fail _ _

theorem paint_style_takes : Takes paintStyle fun style front => front = [style.code] := by
  refine takes_bind (byte_takes _) ?_
  rintro code front rfl
  split
  · rename_i style known
    refine takes_pure ?_
    rw [PaintStyle.code_of_known known, List.append_nil]
  · exact takes_fail _ _

theorem max_stream_takes : Takes maxStream fun id front =>
    front = [(id.map (·.number)).getD noStream] ∧ id ≠ some ⟨noStream⟩ := by
  refine takes_bind (byte_takes _) ?_
  rintro code front rfl
  by_cases absent : code = noStream
  · rw [if_pos absent, absent]
    exact takes_pure ⟨rfl, by simp⟩
  · rw [if_neg absent]
    exact takes_pure ⟨rfl, by simp [absent]⟩

theorem color_takes :
    Takes color fun color front => front = [color.red, color.green, color.blue] := by
  refine takes_bind (number_takes 3 _) ?_
  rintro n front ⟨rfl, small⟩
  refine takes_pure ?_
  simp only [Bytes.bigEndian, Nat.div_div_eq_div_mul, List.nil_append, List.append_nil,
    List.cons_append]

theorem stream_takes : Takes stream fun stream front =>
    writeStream stream = .ok front ∧ stream.onWire = stream := by
  refine takes_bind stream_id_takes ?_
  rintro id _ rfl
  refine takes_bind (text_takes _) ?_
  rintro name nameBytes nameWritten
  refine takes_bind kind_takes ?_
  rintro kind _ rfl
  refine takes_bind (int_takes _) ?_
  rintro minValue _ rfl
  refine takes_bind (int_takes _) ?_
  rintro maxValue _ rfl
  refine takes_bind (int_takes _) ?_
  rintro zeroValue _ rfl
  refine takes_bind (int_takes _) ?_
  rintro defaultValue _ rfl
  refine takes_bind (text_takes _) ?_
  rintro labelBefore before beforeWritten
  refine takes_bind (text_takes _) ?_
  rintro labelAfter after afterWritten
  refine takes_bind presentation_takes ?_
  rintro presentation _ rfl
  refine takes_bind paint_style_takes ?_
  rintro paintStyle _ rfl
  refine takes_bind max_stream_takes ?_
  rintro maxStream _ ⟨rfl, present⟩
  refine takes_bind color_takes ?_
  rintro color _ rfl
  refine takes_bind (bool_takes _) ?_
  rintro summary _ rfl
  refine takes_pure ⟨?_, ?_⟩
  · simp only [writeStream, nameWritten, beforeWritten, afterWritten]
    simp [pure, Except.pure, bind, Except.bind]
  · rw [StreamDescriptor.onWire, if_neg present]

end Reader

theorem rewritten_nil (write : α → Except Error Bytes) (mask : α → Bytes) :
    Rewritten (writeEach write) (List.flatMap mask) [] [] :=
  ⟨rfl, rfl⟩

theorem rewritten_cons {write : α → Except Error Bytes} {mask : α → Bytes} {item : α}
    {items : List α} {front back : Bytes} (first : Rewritten write mask item front)
    (others : Rewritten (writeEach write) (List.flatMap mask) items back) :
    Rewritten (writeEach write) (List.flatMap mask) (item :: items) (front ++ back) := by
  obtain ⟨firstLength, firstWritten⟩ := first
  obtain ⟨othersLength, othersWritten⟩ := others
  refine ⟨?_, ?_⟩
  · rw [List.length_append, List.flatMap_cons, List.length_append, firstLength, othersLength]
  · rw [write_each_cons, firstWritten, othersWritten, List.flatMap_cons, cleared_append firstLength]
    rfl

theorem main_space_flag (flags : UInt8) :
    writeBool (decide (flags &&& 1 = 1)) = [flags &&& 0x01] := by
  have bit : flags &&& 1 = 0 ∨ flags &&& 1 = 1 := by
    have low : (flags &&& 1).toNat < 2 := by
      rw [UInt8.toNat_and]
      exact Nat.lt_succ_of_le Nat.and_le_right
    rcases Nat.lt_or_ge (flags &&& 1).toNat 1 with none | one
    · exact .inl (UInt8.toNat_inj.mp (by simpa using none))
    · exact .inr (UInt8.toNat_inj.mp (by simp only [UInt8.toNat_one]; omega))
  rcases bit with off | on
  · rw [off]
    rfl
  · rw [on]
    rfl

theorem rewritten_flags {space : SpaceDescriptor} {head tail : Bytes} {flags : UInt8}
    (headSize : head.length = space.headSize) (tailSize : tail.length = space.tailSize)
    (written : writeSpace space = .ok (head ++ (flags &&& 0x01) :: tail)) :
    Rewritten writeSpace SpaceDescriptor.significant space (head ++ flags :: tail) := by
  have rest : cleared (0x01 :: solid tail.length) (flags :: tail) =
      (flags &&& 0x01) :: cleared (solid tail.length) tail := rfl
  refine rewritten_behind (0x01 :: solid tail.length) ?_ ?_ ?_
  · rw [SpaceDescriptor.significant, headSize, tailSize]
  · rw [List.length_cons, List.length_cons, solid_length]
  · rw [rest, cleared_solid, written]

namespace Reader

theorem space_takes : Takes space fun space front =>
    Rewritten writeSpace SpaceDescriptor.significant space front ∧ space.onWire = space := by
  refine takes_bind space_id_takes ?_
  rintro id _ rfl
  refine takes_bind (text_takes _) ?_
  rintro name nameBytes nameWritten
  refine takes_bind (text_takes _) ?_
  rintro driverName driverNameBytes driverNameWritten
  refine takes_bind (text_takes _) ?_
  rintro title titleBytes titleWritten
  refine takes_bind (text_takes _) ?_
  rintro blockInfo blockInfoBytes blockInfoWritten
  refine takes_bind (count32_takes _) ?_
  rintro tileCount _ rfl
  refine takes_bind (text_takes _) ?_
  rintro unusedLabel unusedLabelBytes unusedLabelWritten
  refine takes_bind (byte_takes _) ?_
  rintro flags _ rfl
  refine takes_bind (byte_takes _) ?_
  rintro streamCount _ rfl
  refine takes_bind (many_takes
    (fun streams front => writeEach writeStream streams = .ok front ∧
      streams.map StreamDescriptor.onWire = streams) stream_takes ⟨rfl, rfl⟩ ?_ _) ?_
  · rintro stream streams front back ⟨written, same⟩ ⟨othersWritten, othersSame⟩
    refine ⟨?_, by rw [List.map_cons, same, othersSame]⟩
    rw [write_each_cons, written, othersWritten]
    rfl
  rintro streams tail ⟨count, tailWritten, same⟩
  refine takes_pure ⟨?_, by rw [SpaceDescriptor.onWire, same]⟩
  have small : streams.length < 256 ^ 1 := by
    rw [count]
    exact streamCount.toNat_lt
  have counted : Bytes.bigEndian 1 streams.length = [streamCount] := by
    rw [count]
    simp [Bytes.bigEndian]
  have cut : [id.number] ++ (nameBytes ++ (driverNameBytes ++ (titleBytes ++ (blockInfoBytes ++
      (Bytes.bigEndian 4 tileCount.toNat ++ (unusedLabelBytes ++ ([flags] ++ ([streamCount] ++
        (tail ++ []))))))))) =
      ([id.number] ++ nameBytes ++ driverNameBytes ++ titleBytes ++ blockInfoBytes ++
        Bytes.bigEndian 4 tileCount.toNat ++ unusedLabelBytes) ++ flags :: streamCount :: tail := by
    simp
  rw [cut]
  refine rewritten_flags ?_ ?_ ?_
  · simp only [List.length_append, List.length_cons, List.length_nil, Bytes.big_endian_length,
      write_text_size nameWritten, write_text_size driverNameWritten, write_text_size titleWritten,
      write_text_size blockInfoWritten, write_text_size unusedLabelWritten, SpaceDescriptor.headSize]
    omega
  · rw [List.length_cons, write_each_size _ (fun _ _ => write_stream_size) tailWritten,
      SpaceDescriptor.tailSize, Nat.add_comm]
  · have flag := main_space_flag flags
    simp only [writeSpace, nameWritten, driverNameWritten, titleWritten, blockInfoWritten,
      unusedLabelWritten, write_count_accepts "streams" small, tailWritten, counted, flag]
    simp [pure, Except.pure, bind, Except.bind]

theorem server_takes : Takes server fun info front =>
    Rewritten writeServer ServerInfo.significant info front ∧ info.onWire = info := by
  refine takes_bind (byte_takes _) ?_
  rintro spoken _ rfl
  split
  · exact takes_fail _ _
  rename_i current
  obtain rfl := Decidable.not_not.mp current
  refine takes_bind (text_takes _) ?_
  rintro name nameBytes nameWritten
  refine takes_bind (text_takes _) ?_
  rintro version versionBytes versionWritten
  refine takes_bind (text_takes _) ?_
  rintro generalInfo generalInfoBytes generalInfoWritten
  refine takes_bind (number_takes 2 _) ?_
  rintro eventCount _ ⟨rfl, fewEvents⟩
  refine takes_bind (many_written (text_takes _) _) ?_
  rintro events eventsBytes ⟨counted, eventsWritten⟩
  refine takes_bind (byte_takes _) ?_
  rintro spaceCount _ rfl
  refine takes_bind (many_takes
    (fun spaces front => Rewritten (writeEach writeSpace) (List.flatMap SpaceDescriptor.significant)
      spaces front ∧ spaces.map SpaceDescriptor.onWire = spaces) space_takes
    ⟨rewritten_nil _ _, rfl⟩ ?_ _) ?_
  · rintro space spaces front back ⟨first, same⟩ ⟨others, othersSame⟩
    exact ⟨rewritten_cons first others, by rw [List.map_cons, same, othersSame]⟩
  rintro spaces spacesBytes ⟨count, ⟨spacesLength, spacesWritten⟩, same⟩
  refine takes_pure ⟨?_, by rw [ServerInfo.onWire, same]⟩
  have fewSpaces : spaces.length < 256 ^ 1 := by
    rw [count]
    exact spaceCount.toNat_lt
  have spacesCounted : Bytes.bigEndian 1 spaces.length = [spaceCount] := by
    rw [count]
    simp [Bytes.bigEndian]
  have cut : [protocolVersion] ++ (nameBytes ++ (versionBytes ++ (generalInfoBytes ++
      (Bytes.bigEndian 2 eventCount ++ (eventsBytes ++ ([spaceCount] ++ (spacesBytes ++ []))))))) =
      ([protocolVersion] ++ nameBytes ++ versionBytes ++ generalInfoBytes ++ Bytes.bigEndian 2 eventCount ++
        eventsBytes ++ [spaceCount]) ++ spacesBytes := by
    simp
  rw [cut]
  refine rewritten_behind (spaces.flatMap SpaceDescriptor.significant) ?_ spacesLength ?_
  · rw [ServerInfo.significant]
    congr 2
    simp only [List.length_append, List.length_cons, List.length_nil, Bytes.big_endian_length,
      write_text_size nameWritten, write_text_size versionWritten,
      write_text_size generalInfoWritten,
      write_each_size textSize (fun _ _ => write_text_size) eventsWritten, ServerInfo.headSize]
    omega
  · subst counted
    simp only [writeServer, nameWritten, versionWritten, generalInfoWritten, eventsWritten,
      write_count_accepts "events" fewEvents, write_count_accepts "spaces" fewSpaces, spacesWritten,
      spacesCounted]
    simp [pure, Except.pure, bind, Except.bind]

end Reader

end Wire

end HeapScope
