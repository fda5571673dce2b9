import HeapScope.Proofs.LinearSpace.Tiles
import HeapScope.TileStream

namespace HeapScope

namespace ValueKind

theorem lowest_nonpos (kind : ValueKind) : kind.lowest ≤ 0 := by
  cases kind <;> decide

theorem highest_nonneg (kind : ValueKind) : 0 ≤ kind.highest := by
  cases kind <;> decide

theorem clamp_add (kind : ValueKind) (amount more : Nat) :
    kind.clamp ((kind.clamp amount).toInt + more) = kind.clamp (amount + more) := by
  have low := kind.lowest_nonpos
  have high := kind.highest_nonneg
  rw [to_int_clamp]
  unfold clamp
  congr 1
  omega

theorem clamp_zero (kind : ValueKind) : kind.clamp 0 = 0 := by
  cases kind <;> decide

end ValueKind

namespace Tiling

def share (tiling : Tiling) (address size : UInt64) (tile : Nat) : Nat :=
  tiling.overlap tile address.toNat (min (address.toNat + size.toNat) tiling.stop)

theorem share_none (tiling : Tiling) (address size : UInt64) {tile : Nat}
    (uncounted : tiling.tileCount ≤ tile) : tiling.share address size tile = 0 := by
  have behind : ¬tiling.tileStart tile < tiling.stop :=
    fun inside => Nat.not_lt.mpr uncounted (tile_lt_iff.mpr inside)
  rw [share, overlap_eq]
  omega

end Tiling

namespace TileStream

def given (kind : ValueKind) (bytes : Nat) (value : Int32) : Int32 :=
  if bytes = 0 then value else kind.clamp (value.toInt + signedBytes bytes)

theorem given_nothing (kind : ValueKind) (value : Int32) : given kind 0 value = value := rfl

theorem signed_bytes_small {count : Nat} (small : count < 2 ^ 63) : signedBytes count = count := by
  unfold signedBytes Bytes.signed
  exact Int.bmod_eq_of_le (by omega) (by omega)

theorem given_small (kind : ValueKind) {bytes : Nat} (small : bytes < 2 ^ 63) (value : Int32) :
    given kind bytes value = if bytes = 0 then value else kind.clamp (value.toInt + bytes) := by
  rw [given, signed_bytes_small small]

theorem map_idx_same {values : List Int32} {change : Nat → Int32 → Int32}
    (same : ∀ index < values.length, ∀ value, change index value = value) :
    values.mapIdx change = values := by
  induction values generalizing change with
  | nil => rfl
  | cons value values ih =>
    rw [List.mapIdx_cons, same 0 (by simp), ih]
    intro index inside
    exact same (index + 1) (by simpa using inside)

theorem map_idx_get {stream : TileStream} (change : Nat → Int32 → Int32) {tile : Nat} {value : Int32}
    (got : stream.get tile = .ok value) :
    get { stream with values := stream.values.mapIdx change } tile = .ok (change tile value) := by
  unfold get at got ⊢
  split at got
  · rename_i found
    cases got
    simp only [List.getElem?_mapIdx, found, Option.map_some]
  · cases got

-- The loop stands in the tile of the address as long as bytes are left, so that it never runs past the
-- last tile.
theorem spread_gives (kind : ValueKind) {tiling : Tiling} {stop : Nat} (within : stop ≤ tiling.stop)
    (tile address : Nat) (values : List Int32)
    (stands : address < stop → tiling.Covers tile address)
    (enough : tiling.tileCount ≤ tile + values.length) :
    spread kind tiling stop tile address values =
      (values.mapIdx fun index => given kind (tiling.overlap (tile + index) address stop), none) := by
  induction values generalizing tile address with
  | nil =>
    have done : ¬address < stop := by
      intro left
      have counted := Tiling.covers_counted (stands left)
      rw [List.length_nil] at enough
      omega
    simp [spread, done]
  | cons value values ih =>
    by_cases left : address < stop
    · have covers := stands left
      have rest := ih (tile + 1) (min (tiling.tileEnd tile) stop) (Tiling.covers_next covers within)
        (by rw [List.length_cons] at enough; omega)
      have others (index : Nat) :
          tiling.overlap (tile + 1 + index) (min (tiling.tileEnd tile) stop) stop =
            tiling.overlap (tile + (index + 1)) address stop := by
        rw [Tiling.overlap_behind covers left, if_neg (by omega), Nat.add_right_comm, Nat.add_assoc]
      have own : tiling.overlap tile address stop = min (tiling.tileEnd tile) stop - address :=
        Tiling.overlap_first covers
      have some : tiling.overlap tile address stop ≠ 0 := by
        unfold Tiling.Covers at covers
        omega
      simp only [spread, if_pos left, rest, List.mapIdx_cons, Nat.add_zero, others, given, own,
        if_neg (own ▸ some)]
    · have nothing (index : Nat) : tiling.overlap (tile + index) address stop = 0 := by
        rw [Tiling.overlap_eq]
        omega
      rw [map_idx_same fun index _ value => by rw [nothing, given_nothing]]
      simp only [spread, if_neg left]

theorem distribute_gives (stream : TileStream) {tiling : Tiling} {tile : Nat} {address : UInt64}
    (covers : tiling.Covers tile address.toNat) (size : UInt64)
    (enough : tiling.tileCount ≤ stream.values.length) :
    stream.distribute tiling address size = (.ok (), { stream with
      values := stream.values.mapIdx fun index =>
        given stream.kind (tiling.share address size index) }) := by
  have counted := Tiling.covers_counted covers
  have found := Tiling.index_of_iff.mpr covers
  have spreads := spread_gives stream.kind (Nat.min_le_right (address.toNat + size.toNat) tiling.stop) tile
    address.toNat (stream.values.drop tile) (fun _ => covers) (by rw [List.length_drop]; omega)
  -- The tiles before that of the address have none of the object.
  have front : (stream.values.take tile).mapIdx
      (fun index => given stream.kind (tiling.share address size index)) = stream.values.take tile := by
    refine map_idx_same fun index inside value => ?_
    have before : index < tile := by rw [List.length_take] at inside; omega
    have apart := tiling.tile_end_le_start before
    have nothing : tiling.share address size index = 0 := by
      unfold Tiling.Covers at covers
      rw [Tiling.share, Tiling.overlap_eq]
      omega
    rw [nothing, given_nothing]
  have whole : stream.values.mapIdx (fun index => given stream.kind (tiling.share address size index)) =
      stream.values.take tile ++ (stream.values.drop tile).mapIdx fun index =>
        given stream.kind (tiling.share address size (tile + index)) := by
    have length : (stream.values.take tile).length = tile := by rw [List.length_take]; omega
    conv_lhs => rw [← List.take_append_drop tile stream.values]
    rw [List.mapIdx_append, front, length]
    simp only [Nat.add_comm tile]
  simp only [distribute, found, spreads]
  rw [whole]
  rfl

theorem increment_gives (stream : TileStream) {tile : Nat} (inside : tile < stream.values.length)
    (amount : Int) :
    stream.increment tile amount = .ok { stream with
      values := stream.values.modify tile fun value => stream.kind.clamp (value.toInt + amount) } := by
  have found : stream.get tile = .ok stream.values[tile] := by
    simp only [get, List.getElem?_eq_getElem inside]
  simp only [increment, found, bind, Except.bind, set, if_pos inside, List.modify_eq_set_getElem?]
  simp [inside]

def Tallies (tiles : Nat) (amounts : Nat → Nat) (stream : TileStream) : Prop :=
  stream.values = (List.range tiles).map fun tile => stream.kind.clamp (amounts tile)

variable {tiles : Nat} {amounts : Nat → Nat} {stream : TileStream}

theorem tallies_length (tallies : Tallies tiles amounts stream) : stream.values.length = tiles := by
  rw [tallies, List.length_map, List.length_range]

theorem make_tallies {descriptor : StreamDescriptor} (zero : descriptor.defaultValue = 0)
    (tiles : Nat) : Tallies tiles (fun _ => 0) (make descriptor tiles) := by
  unfold Tallies make
  rw [zero]
  simp [ValueKind.clamp_zero, List.map_const']

@[simp] theorem reset_make (descriptor : StreamDescriptor) (tiles : Nat) :
    (make descriptor tiles).reset = make descriptor tiles := by
  simp [reset, make]

theorem tallies_raised (tallies : Tallies tiles amounts stream) {more : Nat → Nat}
    {raise : Nat → Int32 → Int32}
    (raises : ∀ tile < tiles, raise tile (stream.kind.clamp (amounts tile)) =
      stream.kind.clamp (amounts tile + more tile)) :
    Tallies tiles (fun tile => amounts tile + more tile)
      { stream with values := stream.values.mapIdx raise } := by
  unfold Tallies at tallies ⊢
  apply List.ext_getElem?
  intro tile
  by_cases counted : tile < tiles
  · simp [tallies, counted, raises tile counted]
    rfl
  · simp [tallies, counted]

theorem increment_tallies (tallies : Tallies tiles amounts stream) {tile : Nat} (inside : tile < tiles) :
    ∃ next, stream.increment tile 1 = .ok next ∧
      Tallies tiles (fun other => amounts other + if tile = other then 1 else 0) next := by
  refine ⟨_, stream.increment_gives ((tallies_length tallies).symm ▸ inside) 1, ?_⟩
  have raised : stream.values.modify tile (fun value => stream.kind.clamp (value.toInt + 1)) =
      stream.values.mapIdx fun other value =>
        if tile = other then stream.kind.clamp (value.toInt + 1) else value := by
    apply List.ext_getElem?
    intro other
    by_cases same : tile = other <;> simp [same]
  rw [raised]
  refine tallies_raised tallies fun other _ => ?_
  by_cases same : tile = other
  · simpa [same] using stream.kind.clamp_add (amounts other) 1
  · simp [same]

theorem distribute_tallies (tallies : Tallies tiles amounts stream) {tiling : Tiling}
    (counted : tiling.tileCount = tiles) (small : tiling.blockSize < 2 ^ 63) {tile : Nat}
    {address : UInt64} (covers : tiling.Covers tile address.toNat) (size : UInt64) :
    ∃ next, stream.distribute tiling address size = (.ok (), next) ∧
      Tallies tiles (fun tile => amounts tile + tiling.share address size tile) next := by
  refine ⟨_, distribute_gives stream covers size (by rw [tallies_length tallies, counted]), ?_⟩
  refine tallies_raised tallies fun other _ => ?_
  have part : tiling.share address size other < 2 ^ 63 :=
    Nat.lt_of_le_of_lt (tiling.overlap_le other _ _) small
  rw [given_small stream.kind part]
  split
  · rename_i nothing
    simp [nothing]
  · exact stream.kind.clamp_add (amounts other) _

theorem tallies_shown (tallies : Tallies tiles amounts stream) :
    stream.values.map Int32.toInt =
      (List.range tiles).map fun tile => min stream.kind.highest (amounts tile) := by
  have low := stream.kind.lowest_nonpos
  have high := stream.kind.highest_nonneg
  rw [tallies, List.map_map]
  refine List.map_congr_left fun tile _ => ?_
  rw [Function.comp_apply, ValueKind.to_int_clamp]
  omega

end TileStream

end HeapScope
