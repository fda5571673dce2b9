import HeapScope.Frame.Builder
import HeapScope.Proofs.LinearSpace.Invariant

/- The range of the values of a stream. All that is computed is clamped to the kind of the stream; the
   default value of the descriptor is taken as it is, whenever the stream starts over (`Ranged`). A frame
   refuses what the kind does not hold (`stream_data_answers`), so it refuses a stream for that value
   alone. -/
namespace HeapScope

namespace FrameBuilder

theorem write_values_answers (kind : ValueKind) (values : List Int32) :
    ((∀ value ∈ values, kind.holds value = true) ∧
        ∃ bytes, Wire.writeEach (Wire.writeValue kind) values = .ok bytes) ∨
      ∃ value ∈ values, kind.holds value = false ∧
        Wire.writeEach (Wire.writeValue kind) values = .error (.valueOutOfRange value kind) := by
  induction values with
  | nil => exact .inl ⟨by simp, [], rfl⟩
  | cons value values ih =>
    rw [Wire.write_each_cons]
    by_cases held : kind.holds value = true
    · have written : Wire.writeValue kind value = .ok (kind.encode value) := if_pos held
      rcases ih with ⟨all, bytes, rest⟩ | ⟨other, member, unheld, rest⟩
      · left
        refine ⟨List.forall_mem_cons.mpr ⟨held, all⟩, kind.encode value ++ bytes, ?_⟩
        rw [written, rest]
        rfl
      · right
        refine ⟨other, List.mem_cons_of_mem value member, unheld, ?_⟩
        rw [written, rest]
        rfl
    · have refused : Wire.writeValue kind value = .error (.valueOutOfRange value kind) := if_neg held
      right
      refine ⟨value, List.mem_cons_self, Bool.eq_false_iff.mpr held, ?_⟩
      rw [refused]
      rfl

theorem stream_data_answers (builder : FrameBuilder) (space : SpaceId) (stream : StreamId)
    (kind : ValueKind) (values : List Int32) :
    let answer := builder.append (.streamData space stream kind values)
    (∃ block, builder.openControl = some block ∧
      answer = .error (.incompleteControl block.space block.remaining)) ∨
    (builder.openControl = none ∧ 2 ^ 32 ≤ values.length ∧
      answer = .error (.tooManyItems "stream values" values.length)) ∨
    (builder.openControl = none ∧ values.length < 2 ^ 32 ∧
      ((∀ value ∈ values, kind.holds value = true) ∧ (∃ next, answer = .ok next) ∨
        ∃ value ∈ values, kind.holds value = false ∧ answer = .error (.valueOutOfRange value kind))) := by
  intro answer
  obtain ⟨payload, openControl⟩ := builder
  cases openControl with
  | some block => exact .inl ⟨block, rfl, rfl⟩
  | none =>
    right
    by_cases few : values.length < 2 ^ 32
    · have count : Wire.writeCount 4 "stream values" values.length = .ok (Bytes.bigEndian 4 values.length) :=
        if_pos few
      refine .inr ⟨rfl, few, ?_⟩
      rcases write_values_answers kind values with ⟨all, bytes, written⟩ | ⟨value, member, unheld, refused⟩
      · refine .inl ⟨all, ?_⟩
        simp only [answer, append, checkFilled, Wire.encode, Wire.writeFields, count, written]
        exact ⟨_, rfl⟩
      · refine .inr ⟨value, member, unheld, ?_⟩
        simp only [answer, append, checkFilled, Wire.encode, Wire.writeFields, count, refused]
        rfl
    · have many : Wire.writeCount 4 "stream values" values.length =
          .error (.tooManyItems "stream values" values.length) := if_neg few
      refine .inl ⟨rfl, Nat.not_lt.mp few, ?_⟩
      simp only [answer, append, checkFilled, Wire.encode, Wire.writeFields, many]
      rfl

end FrameBuilder

namespace TileStream

def run (stream : TileStream) (calls : List Call) : TileStream :=
  calls.foldl (fun stream call => (stream.perform call).2) stream

structure Ranged (own : StreamDescriptor) (stream : TileStream) : Prop where
  descriptor : stream.descriptor = own
  values : ∀ value ∈ stream.values, own.kind.holds value = true ∨ value = own.defaultValue

variable {descriptor : StreamDescriptor} {stream : TileStream}

theorem make_ranged (descriptor : StreamDescriptor) (tiles : Nat) :
    Ranged descriptor (make descriptor tiles) :=
  ⟨rfl, fun _ member => .inr (List.eq_of_mem_replicate member)⟩

theorem set_ranged (ranged : Ranged descriptor stream) {tile : Nat} {value : Int} {next : TileStream}
    (done : stream.set tile value = .ok next) : Ranged descriptor next := by
  unfold set at done
  split at done
  · cases done
    refine ⟨ranged.descriptor, fun other member => ?_⟩
    rcases List.mem_or_eq_of_mem_set member with earlier | rfl
    · exact ranged.values other earlier
    · left
      rw [← ranged.descriptor]
      exact stream.kind.clamp_held value
  · cases done

theorem spread_ranged (kind : ValueKind) (tiling : Tiling) (stop tile address : Nat)
    (values : List Int32) :
    ∀ value ∈ (spread kind tiling stop tile address values).1, kind.holds value = true ∨ value ∈ values := by
  induction values generalizing tile address with
  | nil => simp [spread]
  | cons first values ih =>
    unfold spread
    split
    · intro value member
      rcases List.mem_cons.mp member with rfl | behind
      · exact .inl (kind.clamp_held _)
      · exact (ih _ _ value behind).imp_right (List.mem_cons_of_mem first)
    · exact fun value member => .inr member

theorem distribute_ranged (ranged : Ranged descriptor stream) (tiling : Tiling) (address size : UInt64) :
    Ranged descriptor (stream.distribute tiling address size).2 := by
  unfold distribute
  split
  · exact ranged
  · rename_i first _
    have changed := spread_ranged stream.kind tiling (min (address.toNat + size.toNat) tiling.stop)
      first address.toNat (stream.values.drop first)
    dsimp only
    split <;>
    · refine ⟨ranged.descriptor, fun value member => ?_⟩
      rcases List.mem_append.mp member with front | back
      · exact ranged.values value (List.mem_of_mem_take front)
      · rcases changed value back with held | kept
        · exact .inl (ranged.descriptor ▸ held)
        · exact ranged.values value (List.mem_of_mem_drop kept)

theorem perform_ranged (ranged : Ranged descriptor stream) (call : Call) :
    Ranged descriptor (stream.perform call).2 := by
  cases call with
  | set tile value =>
    rw [perform]
    cases done : stream.set tile value with
    | error error => exact ranged
    | ok next => exact set_ranged ranged done
  | increment tile amount =>
    rw [perform]
    cases done : stream.increment tile amount with
    | error error => exact ranged
    | ok next =>
      obtain ⟨value, _, done⟩ := Wire.except_bind_ok done
      exact set_ranged ranged done
  | distribute tiling address size => exact distribute_ranged ranged tiling address size
  | reset => exact ranged.descriptor ▸ make_ranged stream.descriptor stream.values.length
  | resize tiles => exact ranged.descriptor ▸ make_ranged stream.descriptor tiles

theorem run_ranged (ranged : Ranged descriptor stream) (calls : List Call) :
    Ranged descriptor (stream.run calls) := by
  induction calls generalizing stream with
  | nil => exact ranged
  | cons call calls ih => exact ih (perform_ranged ranged call)

theorem refused_for_default (ranged : Ranged descriptor stream) (builder : FrameBuilder)
    (space : SpaceId) (value : Int32) (kind : ValueKind) :
    builder.append (.streamData space stream.descriptor.id stream.kind stream.values) =
        .error (.valueOutOfRange value kind) ↔
      builder.openControl = none ∧ stream.values.length < 2 ^ 32 ∧ kind = descriptor.kind ∧
        value = descriptor.defaultValue ∧ kind.holds value = false ∧ value ∈ stream.values := by
  have kinds : stream.kind = descriptor.kind := congrArg StreamDescriptor.kind ranged.descriptor
  have unheld_default : ∀ other ∈ stream.values, descriptor.kind.holds other = false →
      other = descriptor.defaultValue := fun other member unheld =>
    (ranged.values other member).resolve_left (Bool.eq_false_iff.mp unheld)
  have answers := builder.stream_data_answers space stream.descriptor.id stream.kind stream.values
  rw [kinds] at answers ⊢
  constructor
  · intro refused
    simp only [refused] at answers
    rcases answers with ⟨_, _, unfilled⟩ | ⟨_, _, many⟩ | ⟨closed, few, written | unwritten⟩
    · cases unfilled
    · cases many
    · obtain ⟨_, _, accepted⟩ := written
      cases accepted
    · obtain ⟨_, member, unheld, same⟩ := unwritten
      cases same
      exact ⟨closed, few, rfl, unheld_default value member unheld, unheld, member⟩
  · rintro ⟨closed, few, rfl, rfl, unheld, member⟩
    rcases answers with ⟨_, opened, _⟩ | ⟨_, many, _⟩ | ⟨_, _, written | unwritten⟩
    · cases closed.symm.trans opened
    · exact absurd few (Nat.not_lt.mpr many)
    · cases unheld.symm.trans (written.1 _ member)
    · obtain ⟨other, among, otherUnheld, refused⟩ := unwritten
      rw [refused, unheld_default other among otherUnheld]

theorem values_fit_but_for_default (descriptor : StreamDescriptor) (tiles : Nat) (calls : List Call) :
    let stream := (make descriptor tiles).run calls
    let written := fun (builder : FrameBuilder) (space : SpaceId) =>
      builder.append (.streamData space stream.descriptor.id stream.kind stream.values)
    stream.descriptor = descriptor ∧
    (∀ value ∈ stream.values, descriptor.kind.holds value = true ∨ value = descriptor.defaultValue) ∧
    (descriptor.kind.holds descriptor.defaultValue = true →
      (∀ value ∈ stream.values, descriptor.kind.holds value = true) ∧
      ∀ builder space value kind, written builder space ≠ .error (.valueOutOfRange value kind)) ∧
    ∀ builder space value kind, written builder space = .error (.valueOutOfRange value kind) ↔
      builder.openControl = none ∧ stream.values.length < 2 ^ 32 ∧ kind = descriptor.kind ∧
        value = descriptor.defaultValue ∧ kind.holds value = false ∧ value ∈ stream.values := by
  intro stream written
  have ranged : Ranged descriptor stream := run_ranged (make_ranged descriptor tiles) calls
  refine ⟨ranged.descriptor, ranged.values, fun held => ⟨fun value member => ?_, ?_⟩,
    refused_for_default ranged⟩
  · rcases ranged.values value member with fits | rfl
    · exact fits
    · exact held
  · intro builder space value kind refused
    obtain ⟨_, _, rfl, rfl, unheld, _⟩ := (refused_for_default ranged builder space value kind).mp refused
    cases unheld.symm.trans held

-- Sums beyond both ends of the kind, an object over two tiles, and a default value that the kind holds.
theorem signed_values_fit :
    let descriptor := { StreamDescriptor.ofKind ⟨0⟩ "Objects" .short with defaultValue := -7 }
    let tiling : Tiling := ⟨0, 300, 100, by decide, by decide, by decide⟩
    let stream := (make descriptor 1).run [.set 0 5, .resize 3, .set 0 40000, .increment 1 (-40000),
      .distribute tiling 150 75, .set 9 1]
    stream.values = [32767, -32718, 18] ∧
    (∀ value ∈ stream.values, descriptor.kind.holds value = true) ∧
    ∀ (builder : FrameBuilder) (space : SpaceId) (value : Int32) (kind : ValueKind),
      builder.append (.streamData space stream.descriptor.id stream.kind stream.values) ≠
        .error (.valueOutOfRange value kind) := by
  intro descriptor tiling stream
  have held : descriptor.kind.holds descriptor.defaultValue = true := by decide
  obtain ⟨_, _, fits, _⟩ := values_fit_but_for_default descriptor 1 [.set 0 5, .resize 3,
    .set 0 40000, .increment 1 (-40000), .distribute tiling 150 75, .set 9 1]
  exact ⟨by decide +kernel, (fits held).1, (fits held).2⟩

theorem default_outside_kind :
    let descriptor := { StreamDescriptor.ofKind ⟨0⟩ "Objects" .byte with defaultValue := 300 }
    let stream := make descriptor 1
    stream.values = [300] ∧ stream.kind.holds 300 = false ∧
    FrameBuilder.empty.append (.streamData ⟨0⟩ descriptor.id stream.kind stream.values) =
      .error (.valueOutOfRange 300 .byte) := by
  intro descriptor stream
  exact ⟨by decide +kernel, by decide, rfl⟩

end TileStream

end HeapScope
