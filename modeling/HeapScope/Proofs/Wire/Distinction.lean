import HeapScope.Proofs.Report.Outcomes

/- Descriptions are told apart by what is written of them. Every field is written so that it can be read
   back, or refused for its size, but for one: a stream of maxima that has the number of none is written
   as none. Two descriptions are therefore written alike exactly if they differ in nothing else
   (`onWire`), and a description that does not use that number is like no other. -/
namespace HeapScope

def StreamDescriptor.Representable (stream : StreamDescriptor) : Prop :=
  stream.maxStream ≠ some ⟨Wire.noStream⟩

def SpaceDescriptor.Representable (space : SpaceDescriptor) : Prop :=
  ∀ stream ∈ space.streams, stream.Representable

def ServerInfo.Representable (info : ServerInfo) : Prop :=
  ∀ space ∈ info.spaces, space.Representable

instance (stream : StreamDescriptor) : Decidable stream.Representable :=
  inferInstanceAs (Decidable (_ ≠ _))

instance (space : SpaceDescriptor) : Decidable space.Representable :=
  inferInstanceAs (Decidable (∀ stream ∈ space.streams, stream.Representable))

instance (info : ServerInfo) : Decidable info.Representable :=
  inferInstanceAs (Decidable (∀ space ∈ info.spaces, space.Representable))

theorem StreamDescriptor.on_wire_self {stream : StreamDescriptor} (representable : stream.Representable) :
    stream.onWire = stream := by
  rw [onWire, if_neg representable]

theorem SpaceDescriptor.on_wire_self {space : SpaceDescriptor} (representable : space.Representable) :
    space.onWire = space := by
  have streams : space.streams.map StreamDescriptor.onWire = space.streams :=
    (List.map_congr_left fun stream member =>
      StreamDescriptor.on_wire_self (representable stream member)).trans (List.map_id' _)
  rw [onWire, streams]

theorem ServerInfo.on_wire_self {info : ServerInfo} (representable : info.Representable) :
    info.onWire = info := by
  have spaces : info.spaces.map SpaceDescriptor.onWire = info.spaces :=
    (List.map_congr_left fun space member =>
      SpaceDescriptor.on_wire_self (representable space member)).trans (List.map_id' _)
  rw [onWire, spaces]

namespace Wire

theorem write_each_map {write : α → Except Error Bytes} {change : α → α}
    (same : ∀ item, write (change item) = write item) (items : List α) :
    writeEach write (items.map change) = writeEach write items := by
  induction items with
  | nil => rfl
  | cons item items ih => rw [List.map_cons, write_each_cons, write_each_cons, same, ih]

theorem write_stream_on_wire (stream : StreamDescriptor) :
    writeStream stream.onWire = writeStream stream := by
  have number : (stream.onWire.maxStream.map (·.number)).getD noStream =
      (stream.maxStream.map (·.number)).getD noStream := by
    by_cases absent : stream.maxStream = some ⟨noStream⟩ <;>
      simp [StreamDescriptor.onWire, absent]
  simp only [writeStream, number]
  rfl

theorem write_space_on_wire (space : SpaceDescriptor) :
    writeSpace space.onWire = writeSpace space := by
  have streams := write_each_map write_stream_on_wire space.streams
  have count : space.onWire.streams.length = space.streams.length := List.length_map _
  simp only [writeSpace, count]
  simp only [SpaceDescriptor.onWire, streams]

theorem write_server_on_wire (info : ServerInfo) : writeServer info.onWire = writeServer info := by
  have spaces := write_each_map write_space_on_wire info.spaces
  have count : info.onWire.spaces.length = info.spaces.length := List.length_map _
  simp only [writeServer, count]
  simp only [ServerInfo.onWire, spaces]

theorem encode_hello_on_wire (info : ServerInfo) :
    encode (.hello info.onWire) = encode (.hello info) := by
  rw [encode, encode, writeFields, writeFields, write_server_on_wire]
  rfl

theorem encode_space_on_wire (space : SpaceDescriptor) :
    encode (.spaceDef space.onWire) = encode (.spaceDef space) := by
  rw [encode, encode, writeFields, writeFields, write_space_on_wire]
  rfl

theorem encode_alike {command other : Command} {bytes : Bytes} (written : encode command = .ok bytes)
    (alike : encode other = .ok bytes) : command.onWire = other.onWire := by
  have read := decode_written [command] bytes (write_each_singleton written)
  rw [decode_written [other] bytes (write_each_singleton alike)] at read
  exact (List.cons.inj (Except.ok.inj read)).1.symm

end Wire

theorem FrameBuilder.append_alike_iff {builder next otherNext : FrameBuilder} {command other : Command}
    (accepted : builder.append command = .ok next) (otherAccepted : builder.append other = .ok otherNext)
    (keeps : Wire.encode command.onWire = Wire.encode command)
    (otherKeeps : Wire.encode other.onWire = Wire.encode other) :
    next.payload = otherNext.payload ↔ command.onWire = other.onWire := by
  obtain ⟨_, bytes, written, rfl⟩ := append_ok accepted
  obtain ⟨_, otherBytes, otherWritten, rfl⟩ := append_ok otherAccepted
  constructor
  · intro same
    obtain rfl := List.append_cancel_left same
    exact Wire.encode_alike written otherWritten
  · intro same
    rw [← keeps, same, otherKeeps, otherWritten] at written
    rw [Except.ok.inj written]

theorem FrameBuilder.append_accepts (command : Command)
    (written : (Wire.encode command).isOk = true) : ∃ next, empty.append command = .ok next := by
  cases encoded : Wire.encode command with
  | error error =>
    rw [encoded] at written
    cases written
  | ok bytes => exact ⟨_, append_closed [] bytes command encoded⟩

theorem descriptions_told_apart (builder next otherNext : FrameBuilder) :
    (∀ info other : ServerInfo, builder.append (.hello info) = .ok next →
      builder.append (.hello other) = .ok otherNext →
      (next.payload = otherNext.payload ↔ info.onWire = other.onWire) ∧
      (info.Representable → other.Representable → next.payload = otherNext.payload → info = other)) ∧
    ∀ space other : SpaceDescriptor, builder.append (.spaceDef space) = .ok next →
      builder.append (.spaceDef other) = .ok otherNext →
      (next.payload = otherNext.payload ↔ space.onWire = other.onWire) ∧
      (space.Representable → other.Representable → next.payload = otherNext.payload →
        space = other) := by
  constructor
  · intro info other accepted otherAccepted
    have alike := FrameBuilder.append_alike_iff accepted otherAccepted
      (Wire.encode_hello_on_wire info) (Wire.encode_hello_on_wire other)
    rw [Command.onWire, Command.onWire, Command.hello.injEq] at alike
    refine ⟨alike, fun representable otherRepresentable same => ?_⟩
    rw [← ServerInfo.on_wire_self representable, ← ServerInfo.on_wire_self otherRepresentable]
    exact alike.mp same
  · intro space other accepted otherAccepted
    have alike := FrameBuilder.append_alike_iff accepted otherAccepted
      (Wire.encode_space_on_wire space) (Wire.encode_space_on_wire other)
    rw [Command.onWire, Command.onWire, Command.spaceDef.injEq] at alike
    refine ⟨alike, fun representable otherRepresentable same => ?_⟩
    rw [← SpaceDescriptor.on_wire_self representable, ← SpaceDescriptor.on_wire_self otherRepresentable]
    exact alike.mp same

def spaceOfMaxima (maxima : Option StreamId) : SpaceDescriptor :=
  ⟨⟨3⟩, "a", "", "", "", 9, "", true,
    [{ StreamDescriptor.ofKind ⟨0⟩ "b" .int with presentation := .maxVar, maxStream := maxima }]⟩

def serverOfMaxima (maxima : Option StreamId) : ServerInfo :=
  ⟨"c", "", "", ["d"], [spaceOfMaxima maxima]⟩

theorem last_number_told_apart :
    (∃ next otherNext,
      FrameBuilder.empty.append (.hello (serverOfMaxima (some ⟨0xfe⟩))) = .ok next ∧
      FrameBuilder.empty.append (.hello (serverOfMaxima none)) = .ok otherNext ∧
      (serverOfMaxima (some ⟨0xfe⟩)).Representable ∧ (serverOfMaxima none).Representable ∧
      next.payload ≠ otherNext.payload) ∧
    ∃ next otherNext,
      FrameBuilder.empty.append (.spaceDef (spaceOfMaxima (some ⟨0xfe⟩))) = .ok next ∧
      FrameBuilder.empty.append (.spaceDef (spaceOfMaxima none)) = .ok otherNext ∧
      (spaceOfMaxima (some ⟨0xfe⟩)).Representable ∧ (spaceOfMaxima none).Representable ∧
      next.payload ≠ otherNext.payload := by
  constructor
  · obtain ⟨next, accepted⟩ := FrameBuilder.append_accepts (.hello (serverOfMaxima (some ⟨0xfe⟩)))
      (by decide +kernel)
    obtain ⟨otherNext, otherAccepted⟩ := FrameBuilder.append_accepts (.hello (serverOfMaxima none))
      (by decide +kernel)
    refine ⟨next, otherNext, accepted, otherAccepted, by decide, by decide, fun same => ?_⟩
    have equal := ((descriptions_told_apart _ next otherNext).1 _ _ accepted otherAccepted).2
      (by decide) (by decide) same
    exact absurd equal (by decide)
  · obtain ⟨next, accepted⟩ := FrameBuilder.append_accepts (.spaceDef (spaceOfMaxima (some ⟨0xfe⟩)))
      (by decide +kernel)
    obtain ⟨otherNext, otherAccepted⟩ := FrameBuilder.append_accepts (.spaceDef (spaceOfMaxima none))
      (by decide +kernel)
    refine ⟨next, otherNext, accepted, otherAccepted, by decide, by decide, fun same => ?_⟩
    have equal := ((descriptions_told_apart _ next otherNext).2 _ _ accepted otherAccepted).2
      (by decide) (by decide) same
    exact absurd equal (by decide)

theorem number_for_none_confused :
    serverOfMaxima (some ⟨0xff⟩) ≠ serverOfMaxima none ∧
    spaceOfMaxima (some ⟨0xff⟩) ≠ spaceOfMaxima none ∧
    (∃ next, FrameBuilder.empty.append (.hello (serverOfMaxima (some ⟨0xff⟩))) = .ok next ∧
      FrameBuilder.empty.append (.hello (serverOfMaxima none)) = .ok next) ∧
    ∃ next, FrameBuilder.empty.append (.spaceDef (spaceOfMaxima (some ⟨0xff⟩))) = .ok next ∧
      FrameBuilder.empty.append (.spaceDef (spaceOfMaxima none)) = .ok next := by
  refine ⟨by decide, by decide, ?_, ?_⟩
  · obtain ⟨next, accepted⟩ := FrameBuilder.append_accepts (.hello (serverOfMaxima none))
      (by decide +kernel)
    have alike := Wire.encode_hello_on_wire (serverOfMaxima (some ⟨0xff⟩))
    refine ⟨next, ?_, accepted⟩
    rw [FrameBuilder.append, ← alike]
    exact accepted
  · obtain ⟨next, accepted⟩ := FrameBuilder.append_accepts (.spaceDef (spaceOfMaxima none))
      (by decide +kernel)
    have alike := Wire.encode_space_on_wire (spaceOfMaxima (some ⟨0xff⟩))
    refine ⟨next, ?_, accepted⟩
    rw [FrameBuilder.append, ← alike]
    exact accepted

end HeapScope
