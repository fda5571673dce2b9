import HeapScope.Proofs.LinearSpace.Operations

/- Used bytes over time. A number of bytes is taken as a signed number of 64 bits, so that one of 2 ^ 63
   or more counts backwards. What a scan does to a value is said once, for every number of bytes
   (`scan_raises`); all that can be done with a space either scans, or leaves the values, or starts them
   at zero (`operate_used`). -/
namespace HeapScope

namespace Tiling

theorem share_le_size (tiling : Tiling) (address size : UInt64) (tile : Nat) :
    tiling.share address size tile ≤ size.toNat := by
  rw [share, overlap_eq]
  omega

theorem share_word (tiling : Tiling) (address size : UInt64) (tile : Nat) :
    tiling.share address size tile < 2 ^ 64 :=
  Nat.lt_of_le_of_lt (tiling.share_le_size address size tile) size.toNat_lt

end Tiling

namespace TileStream

theorem signed_bytes_large {count : Nat} (large : 2 ^ 63 ≤ count) (word : count < 2 ^ 64) :
    signedBytes count = (count : Int) - 2 ^ 64 := by
  unfold signedBytes Bytes.signed
  rw [← Int.sub_bmod_right]
  exact Int.bmod_eq_of_le (by omega) (by omega)

def raised (value : Int) (bytes : Nat) : Int :=
  if bytes < 2 ^ 63 then min (value + bytes) (2 ^ 31 - 1) else max (-2 ^ 31) (value + bytes - 2 ^ 64)

theorem given_raised (value : Int32) {bytes : Nat} (word : bytes < 2 ^ 64) :
    (given .int bytes value).toInt = raised value.toInt bytes := by
  have low := value.le_toInt
  have high := value.toInt_lt
  have lowest : ValueKind.int.lowest = -2 ^ 31 := rfl
  have highest : ValueKind.int.highest = 2 ^ 31 - 1 := rfl
  unfold raised
  by_cases small : bytes < 2 ^ 63
  · rw [given_small .int small, if_pos small]
    by_cases nothing : bytes = 0
    · rw [if_pos nothing, nothing]
      omega
    · rw [if_neg nothing, ValueKind.to_int_clamp, lowest, highest]
      omega
  · have some : bytes ≠ 0 := by omega
    rw [given, if_neg some, if_neg small, ValueKind.to_int_clamp, lowest, highest,
      signed_bytes_large (Nat.not_lt.mp small) word]
    omega

theorem raised_rises {value : Int} (high : value < 2 ^ 31) {bytes : Nat} (small : bytes < 2 ^ 63) :
    value ≤ raised value bytes := by
  rw [raised, if_pos small]
  omega

end TileStream

namespace LinearSpace

variable {space : LinearSpace}

def received (space : LinearSpace) (address size : UInt64) (tile : Nat) : Nat :=
  if space.tiling.contains address.toNat then space.tiling.share address size tile else 0

theorem received_small (address : UInt64) {size : UInt64}
    (small : space.tiling.blockSize < 2 ^ 63 ∨ size.toNat < 2 ^ 63) (tile : Nat) :
    space.received address size tile < 2 ^ 63 := by
  have block : space.tiling.share address size tile ≤ space.tiling.blockSize :=
    space.tiling.overlap_le tile _ _
  have whole := space.tiling.share_le_size address size tile
  unfold received
  split <;> omega

theorem received_word (space : LinearSpace) (address size : UInt64) (tile : Nat) :
    space.received address size tile < 2 ^ 64 := by
  have word := space.tiling.share_word address size tile
  unfold received
  split <;> omega

theorem scan_used (sound : space.Sound) (address size : UInt64) (live : Bool) :
    (space.scan address size live).2.used = { space.used with
      values := space.used.values.mapIdx fun tile =>
        TileStream.given .int (space.received address size tile) } := by
  by_cases inside : space.tiling.start ≤ address.toNat ∧ address.toNat < space.tiling.stop
  · have covers := Tiling.index_covers inside
    have counted := Tiling.covers_counted covers
    have found : space.tiling.contains address.toNat = true := by simpa [Tiling.contains] using inside
    have kind : space.used.kind = .int := by rw [TileStream.kind, sound.used.descriptor]; rfl
    have spread := space.used.distribute_gives covers size (Nat.le_of_eq sound.used.values.symm)
    have objects := space.objects.increment_gives (sound.objects.values.symm ▸ counted) 1
    have lives := space.live.increment_gives (sound.live.values.symm ▸ counted) 1
    have deaths := space.dead.increment_gives (sound.dead.values.symm ▸ counted) 1
    rw [scan_counts covers spread objects lives deaths live, kind]
    simp only [received, if_pos found]
  · have missed : ¬space.tiling.contains address.toNat = true := by simpa [Tiling.contains] using inside
    have same : (space.used.values.mapIdx fun _ => TileStream.given .int 0) = space.used.values :=
      TileStream.map_idx_same fun _ _ value => TileStream.given_nothing .int value
    rw [scan_misses inside]
    simp only [received, if_neg missed, same]

theorem scan_raises (sound : space.Sound) (address size : UInt64) (live : Bool) {tile : Nat}
    {value : Int32} (got : space.used.get tile = .ok value) :
    ∃ next, (space.scan address size live).2.used.get tile = .ok next ∧
      next.toInt = TileStream.raised value.toInt (space.received address size tile) := by
  rw [scan_used sound, TileStream.map_idx_get _ got]
  exact ⟨_, rfl, TileStream.given_raised value (space.received_word address size tile)⟩

theorem operate_used (sound : space.Sound) (operation : Operation) :
    let next := (space.operate operation).2
    next.descriptor.streams = space.descriptor.streams ∧
      ((∃ address size live, operation = .call (.scan address size live)) ∨
        next.used = space.used ∨ ∀ value ∈ next.used.values, value = 0) := by
  intro next
  have zero : space.used.descriptor.defaultValue = 0 := by rw [sound.used.descriptor]; rfl
  cases operation with
  | call call =>
    cases call with
    | scan address size live =>
      exact ⟨congrArg _ (scan_keeps sound address size live).2.descriptor, .inl ⟨address, size, live, rfl⟩⟩
    | resize start stop =>
      cases done : space.resize start stop with
      | error error =>
        simp only [next, operate, perform, done]
        exact ⟨rfl, .inr (.inl rfl)⟩
      | ok moved =>
        obtain ⟨tiling, _, changed⟩ := Wire.except_bind_ok done
        obtain ⟨tileCount, _, changed⟩ := Wire.except_bind_ok changed
        simp only [next, operate, perform, done]
        cases changed
        exact ⟨rfl, .inr (.inr fun value member => (List.eq_of_mem_replicate member).trans zero)⟩
    | setCursor address =>
      simp only [next, operate, perform, setCursor]
      split <;> exact ⟨rfl, .inr (.inl rfl)⟩
    | setSeparator tile =>
      cases done : space.setSeparator tile with
      | error error =>
        simp only [next, operate, perform, done]
        exact ⟨rfl, .inr (.inl rfl)⟩
      | ok changed =>
        obtain ⟨_, _, same⟩ := Wire.except_bind_ok done
        simp only [next, operate, perform, done]
        cases same
        exact ⟨rfl, .inr (.inl rfl)⟩
    | setInfo info => exact ⟨rfl, .inr (.inl rfl)⟩
    | reset =>
      exact ⟨rfl, .inr (.inr fun value member => (List.eq_of_mem_replicate member).trans zero)⟩
  | setMainSpace mainSpace => exact ⟨rfl, .inr (.inl rfl)⟩
  | transmit reports reporter event started stopped =>
    rcases space.transmit_space reporter event started stopped with unmoved | ⟨_, unpended⟩
    · simp [next, operate, unmoved]
    · simp [next, operate, unpended]

def UsedNonneg (space : LinearSpace) : Prop :=
  ∀ value ∈ space.used.values, 0 ≤ value.toInt

theorem scan_nonneg (sound : space.Sound) (nonneg : space.UsedNonneg) {address size : UInt64}
    (small : space.tiling.blockSize < 2 ^ 63 ∨ size.toNat < 2 ^ 63) (live : Bool) :
    (space.scan address size live).2.UsedNonneg := by
  intro value member
  rw [scan_used sound] at member
  obtain ⟨tile, inside, rfl⟩ := List.mem_mapIdx.mp member
  have before := nonneg _ (List.getElem_mem inside)
  have rises := TileStream.raised_rises space.used.values[tile].toInt_lt
    (received_small address small tile)
  rw [TileStream.given_raised _ (space.received_word address size tile)]
  omega

theorem operate_nonneg (sound : space.Sound) (nonneg : space.UsedNonneg) (operation : Operation)
    (small : ∀ address size live, operation = .call (.scan address size live) →
      space.tiling.blockSize < 2 ^ 63 ∨ size.toNat < 2 ^ 63) :
    (space.operate operation).2.UsedNonneg := by
  rcases (operate_used sound operation).2 with ⟨address, size, live, rfl⟩ | same | zeros
  · exact scan_nonneg sound nonneg (small address size live rfl) live
  · rw [UsedNonneg, same]
    exact nonneg
  · intro value member
    rw [zeros value member]
    decide

theorem run_nonneg (sound : space.Sound) (nonneg : space.UsedNonneg) (operations : List Operation)
    (small : ∀ address size live, .call (.scan address size live) ∈ operations →
      space.tiling.blockSize < 2 ^ 63 ∨ size.toNat < 2 ^ 63) :
    (space.run operations).UsedNonneg := by
  induction operations generalizing space with
  | nil => exact nonneg
  | cons operation operations ih =>
    refine ih (operate_sound sound operation) ?_ ?_
    · refine operate_nonneg sound nonneg operation fun address size live is => ?_
      exact small address size live (is ▸ List.mem_cons_self)
    · intro address size live member
      rw [operate_block_size sound operation]
      exact small address size live (List.mem_cons_of_mem operation member)

theorem made_nonneg {id : SpaceId} {name : String} {start stop blockSize : UInt64}
    (made : make id name start stop blockSize = .ok space) : space.UsedNonneg := by
  obtain ⟨tiling, _, made⟩ := Wire.except_bind_ok made
  obtain ⟨tileCount, _, made⟩ := Wire.except_bind_ok made
  cases made
  intro value member
  rw [List.eq_of_mem_replicate member]
  exact Int.le_refl 0

theorem made_declares {id : SpaceId} {name : String} {start stop blockSize : UInt64}
    (made : make id name start stop blockSize = .ok space) (operations : List Operation) :
    (space.run operations).descriptor.stream? ⟨0⟩ = some (usedStream blockSize.toNat) := by
  have same : (space.run operations).Sound ∧
      (space.run operations).descriptor.streams = space.descriptor.streams :=
    run_keeps (fun next => next.Sound ∧ next.descriptor.streams = space.descriptor.streams)
      (fun _ operation kept => ⟨operate_sound kept.1 operation,
        (operate_used kept.1 operation).1.trans kept.2⟩) operations ⟨(make_sound made).1, rfl⟩
  rw [SpaceDescriptor.stream?, same.2]
  obtain ⟨tiling, tiled, made⟩ := Wire.except_bind_ok made
  obtain ⟨tileCount, _, made⟩ := Wire.except_bind_ok made
  cases made
  rw [← (tiling_make_ok tiled).2.2]
  rfl

theorem declared_maximum (blockSize : UInt64) :
    (usedStream blockSize.toNat).maxValue.toInt =
      if blockSize.toNat < 2 ^ 63 then min (blockSize.toNat : Int) (2 ^ 31 - 1)
      else max (-2 ^ 31) ((blockSize.toNat : Int) - 2 ^ 64) := by
  have word := blockSize.toNat_lt
  have lowest : ValueKind.int.lowest = -2 ^ 31 := rfl
  have highest : ValueKind.int.highest = 2 ^ 31 - 1 := rfl
  change (ValueKind.int.clamp (TileStream.signedBytes blockSize.toNat)).toInt = _
  rw [ValueKind.to_int_clamp, lowest, highest]
  by_cases small : blockSize.toNat < 2 ^ 63
  · rw [if_pos small, TileStream.signed_bytes_small small]
    omega
  · rw [if_neg small, TileStream.signed_bytes_large (Nat.not_lt.mp small) word]
    omega

theorem used_bytes_rise (id : SpaceId) (name : String) (start stop blockSize : UInt64)
    (space : LinearSpace) (made : make id name start stop blockSize = .ok space)
    (operations : List Operation) :
    let reached := space.run operations
    (∃ declared, reached.descriptor.stream? ⟨0⟩ = some declared ∧
      reached.used.descriptor = declared ∧ declared.maxValue.toInt =
        if blockSize.toNat < 2 ^ 63 then min (blockSize.toNat : Int) (2 ^ 31 - 1)
        else max (-2 ^ 31) ((blockSize.toNat : Int) - 2 ^ 64)) ∧
    (∀ address size live tile value, reached.used.get tile = .ok value →
      ∃ next, (reached.scan address size live).2.used.get tile = .ok next ∧
        next.toInt = TileStream.raised value.toInt (reached.received address size tile) ∧
        (blockSize.toNat < 2 ^ 63 ∨ size.toNat < 2 ^ 63 → value.toInt ≤ next.toInt)) ∧
    ((blockSize.toNat < 2 ^ 63 ∨ ∀ address size live, .call (.scan address size live) ∈ operations →
        size.toNat < 2 ^ 63) →
      ∀ value ∈ reached.used.values, 0 ≤ value.toInt) := by
  intro reached
  have soundMade := (make_sound made).1
  have sound : reached.Sound := run_sound soundMade operations
  have block : reached.tiling.blockSize = blockSize.toNat :=
    (run_block_size soundMade operations).trans (made_block_size made)
  refine ⟨⟨_, made_declares made operations, ?_, declared_maximum blockSize⟩, ?_, ?_⟩
  · rw [sound.used.descriptor, block]
  · intro address size live tile value got
    obtain ⟨next, gotNext, raised⟩ := scan_raises sound address size live got
    refine ⟨next, gotNext, raised, fun small => ?_⟩
    rw [raised]
    exact TileStream.raised_rises value.toInt_lt (received_small address (block ▸ small) tile)
  · intro small
    refine run_nonneg soundMade (made_nonneg made) operations fun address size live member => ?_
    rw [made_block_size made]
    exact small.imp_right fun each => each address size live member

-- Blocks of more than 2 ^ 63 bytes with objects of less, before and after a reset, and then one of more.
theorem long_blocks_rise :
    let operations : List Operation := [.call (.scan 7 9223372036854775807 true), .call .reset,
      .call (.scan 100 4611686018427387904 true), .call (.scan 13835058055282163712 40 false)]
    let reached (space : LinearSpace) := space.run operations
    ∃ space, make ⟨2⟩ "Main" 0 18446744073709551615 13835058055282163712 = .ok space ∧
      (reached space).used.values = [2147483647, 40] ∧
      (∀ value ∈ (reached space).used.values, 0 ≤ value.toInt) ∧
      (∃ next, ((reached space).scan 13835058055282163712 2 true).2.used.get 1 = .ok next ∧
        next.toInt = 42 ∧ 40 ≤ next.toInt) ∧
      ∃ next, ((reached space).scan 1 9223372036854775808 true).2.used.get 0 = .ok next ∧
        next.toInt = -2147483648 := by
  intro operations reached
  have each (space : LinearSpace)
      (made : make ⟨2⟩ "Main" 0 18446744073709551615 13835058055282163712 = .ok space) :=
    used_bytes_rise ⟨2⟩ "Main" 0 18446744073709551615 13835058055282163712 space made operations
  obtain ⟨space, made⟩ : ∃ space,
      make ⟨2⟩ "Main" 0 18446744073709551615 13835058055282163712 = .ok space := ⟨_, rfl⟩
  obtain ⟨_, scans, nonneg⟩ := each space made
  have values : (reached space).used.values = [2147483647, 40] := by
    cases made
    decide +kernel
  have short : (reached space).received 13835058055282163712 2 1 = 2 := by
    cases made
    rw [received, if_pos (by decide +kernel), Tiling.share, Tiling.overlap_eq]
    decide +kernel
  have long : (reached space).received 1 9223372036854775808 0 = 9223372036854775808 := by
    cases made
    rw [received, if_pos (by decide +kernel), Tiling.share, Tiling.overlap_eq]
    decide +kernel
  have first : (reached space).used.get 0 = .ok 2147483647 := by rw [TileStream.get, values]; rfl
  have second : (reached space).used.get 1 = .ok 40 := by rw [TileStream.get, values]; rfl
  obtain ⟨next, gotNext, raised, rises⟩ := scans 13835058055282163712 2 true 1 40 second
  obtain ⟨fallen, gotFallen, lowered, _⟩ := scans 1 9223372036854775808 true 0 2147483647 first
  refine ⟨space, made, values, nonneg (.inr ?_), ⟨next, gotNext, raised.trans ?_, rises (.inr ?_)⟩,
    fallen, gotFallen, lowered.trans ?_⟩
  · intro address size live member
    simp only [operations, List.mem_cons, Operation.call.injEq, Call.scan.injEq, reduceCtorEq,
      List.not_mem_nil, or_false, false_or] at member
    rcases member with ⟨_, rfl, _⟩ | ⟨_, rfl, _⟩ | ⟨_, rfl, _⟩ <;> decide
  · rw [short]
    decide
  · decide
  · rw [long]
    decide

-- The whole range is one tile of 2 ^ 63 bytes, and one object fills it.
theorem long_object_lowers_used :
    ∃ space, make ⟨3⟩ "nursery" 0 9223372036854775808 9223372036854775808 = .ok space ∧
      space.used.descriptor.maxValue.toInt = -2147483648 ∧ space.used.values = [0] ∧
      (space.scan 0 9223372036854775808 true).1 = .ok () ∧
      (space.scan 0 9223372036854775808 true).2.used.values = [-2147483648] := by
  obtain ⟨space, made⟩ : ∃ space,
      make ⟨3⟩ "nursery" 0 9223372036854775808 9223372036854775808 = .ok space := ⟨_, rfl⟩
  refine ⟨space, made, ?_⟩
  cases made
  decide +kernel

end LinearSpace

end HeapScope
