import Mathlib.Algebra.BigOperators.Ring.Finset
import HeapScope.Proofs.LinearSpace.Walking

namespace HeapScope

namespace ValueKind

theorem clamp_mono (kind : ValueKind) {low high : Int} (le : low ≤ high) :
    (kind.clamp low).toInt ≤ (kind.clamp high).toInt := by
  rw [to_int_clamp, to_int_clamp]
  omega

end ValueKind

namespace TileStream

theorem total_of_amounts {stream : TileStream} {tiles : List Nat} {amounts : Nat → Nat}
    (holds : stream.values.map Int32.toInt = tiles.map fun tile => (amounts tile : Int)) :
    stream.total = (tiles.map amounts).sum := by
  have summed : stream.total = (stream.values.map Int32.toInt).sum := by
    rw [total, List.sum, List.foldr_map]
  rw [summed, holds, Nat.cast_list_sum, List.map_map]
  rfl

theorem amount_got {stream : TileStream} {tiles : Nat} {amounts : Nat → Nat}
    (holds : stream.values.map Int32.toInt = (List.range tiles).map fun tile => (amounts tile : Int))
    {tile : Nat} {value : Int32} (got : stream.get tile = .ok value) : value.toInt = amounts tile := by
  unfold get at got
  split at got
  · rename_i found
    cases got
    have length : stream.values.length = tiles := by simpa using congrArg List.length holds
    have inside : tile < tiles := length ▸ (List.getElem?_eq_some_iff.mp found).1
    simpa [found, inside] using congrArg (·[tile]?) holds
  · cases got

end TileStream

namespace Tiling

theorem length_le_tiles (tiling : Tiling) : tiling.length ≤ tiling.tileCount * tiling.blockSize := by
  have behind : ¬tiling.tileStart tiling.tileCount < tiling.stop :=
    fun inside => Nat.lt_irrefl _ (tile_lt_iff.mpr inside)
  unfold tileStart at behind
  unfold length
  omega

end Tiling

theorem apart_pieces_fit {pieces : List (Finset Nat)} (whole : Finset Nat)
    (apart : pieces.Pairwise Disjoint) (within : ∀ piece ∈ pieces, piece ⊆ whole) :
    (pieces.map Finset.card).sum ≤ whole.card := by
  induction pieces generalizing whole with
  | nil => exact Nat.zero_le _
  | cons piece pieces ih =>
    obtain ⟨others, apart⟩ := List.pairwise_cons.mp apart
    have rest : ∀ other ∈ pieces, other ⊆ whole \ piece := by
      intro other member
      refine Finset.subset_sdiff.mpr ⟨within other (List.mem_cons_of_mem piece member), ?_⟩
      exact (others other member).symm
    have split := Finset.card_sdiff_add_card_eq_card (within piece List.mem_cons_self)
    have fits := ih (whole \ piece) apart rest
    rw [List.map_cons, List.sum_cons]
    omega

namespace LinearSpace

namespace Object

def extent (object : Object) : Finset Nat :=
  Finset.Ico object.address.toNat (object.address.toNat + object.size.toNat)

def part (object : Object) (tiling : Tiling) : Finset Nat :=
  Finset.Ico object.address.toNat (min (object.address.toNat + object.size.toNat) tiling.stop)

theorem part_extent (object : Object) (tiling : Tiling) : object.part tiling ⊆ object.extent :=
  Finset.Ico_subset_Ico_right (Nat.min_le_left _ _)

theorem part_card (object : Object) (tiling : Tiling) :
    (object.part tiling).card = min object.size.toNat (tiling.stop - object.address.toNat) := by
  rw [part, Nat.card_Ico]
  omega

end Object

namespace Walk

variable {walk : Walk}

theorem parts_apart {shown : List Object}
    (apart : shown.Pairwise fun object other => Disjoint object.extent other.extent)
    (cut : Object → Finset Nat) (cuts : ∀ object, cut object ⊆ object.extent) :
    (shown.map cut).Pairwise Disjoint := by
  refine List.pairwise_map.mpr (apart.imp fun {object other} disjoint => ?_)
  exact disjoint.mono (cuts object) (cuts other)

theorem bytes_fit {shown : List Object}
    (apart : shown.Pairwise fun object other => Disjoint object.extent other.extent) (tiling : Tiling)
    (tile : Nat) : bytesIn shown tiling tile ≤ tiling.tileEnd tile - tiling.tileStart tile := by
  have pieces := parts_apart apart (fun object => (object.part tiling).filter (tiling.Covers tile))
    fun object => (Finset.filter_subset _ _).trans (object.part_extent tiling)
  have within : ∀ piece ∈ shown.map fun object => (object.part tiling).filter (tiling.Covers tile),
      piece ⊆ Finset.Ico (tiling.tileStart tile) (tiling.tileEnd tile) := by
    intro piece member byte held
    obtain ⟨object, _, rfl⟩ := List.mem_map.mp member
    exact Finset.mem_Ico.mpr (Finset.mem_filter.mp held).2
  have fits := apart_pieces_fit _ pieces within
  rw [Nat.card_Ico, List.map_map] at fits
  exact fits

theorem bytes_sum (tiling : Tiling) {shown : List Object}
    (inside : ∀ object ∈ shown, object.isInside tiling = true) :
    ((List.range tiling.tileCount).map (bytesIn shown tiling)).sum =
      (shown.map fun object => (object.part tiling).card).sum := by
  induction shown with
  | nil =>
    have nothing : bytesIn [] tiling = fun _ => 0 := rfl
    simp [nothing]
  | cons object shown ih =>
    have starts := inside object List.mem_cons_self
    have others := ih fun other member => inside other (List.mem_cons_of_mem object member)
    simp only [Object.isInside, Bool.and_eq_true, decide_eq_true_eq] at starts
    have own := Tiling.overlaps_sum starts.1
      (Nat.min_le_right (object.address.toNat + object.size.toNat) tiling.stop)
    rw [← Nat.card_Ico] at own
    have split : bytesIn (object :: shown) tiling = fun tile =>
        tiling.share object.address object.size tile + bytesIn shown tiling tile := by
      funext tile
      rw [bytesIn, List.map_cons, List.sum_cons]
      rfl
    rw [split, List.sum_map_add, others, List.map_cons, List.sum_cons]
    exact congrArg (· + _) own

theorem parts_fit {shown : List Object}
    (apart : shown.Pairwise fun object other => Disjoint object.extent other.extent) (tiling : Tiling)
    (inside : ∀ object ∈ shown, object.isInside tiling = true) :
    (shown.map fun object => (object.part tiling).card).sum ≤ tiling.length := by
  have pieces := parts_apart apart (·.part tiling) (·.part_extent tiling)
  have within : ∀ piece ∈ shown.map (·.part tiling), piece ⊆ Finset.Ico tiling.start tiling.stop := by
    intro piece member
    obtain ⟨object, listed, rfl⟩ := List.mem_map.mp member
    have starts := inside object listed
    simp only [Object.isInside, Bool.and_eq_true, decide_eq_true_eq] at starts
    exact Finset.Ico_subset_Ico starts.1 (Nat.min_le_right _ _)
  have fits := apart_pieces_fit _ pieces within
  rw [Nat.card_Ico, List.map_map] at fits
  exact fits

theorem apart_values (adds : walk.AddsUp) (small : walk.space.tiling.blockSize ≤ 2 ^ 31 - 1)
    (apart : walk.shown.Pairwise fun object other => Disjoint object.extent other.extent) :
    walk.space.used.values.map Int32.toInt =
      (List.range walk.space.tiling.tileCount).map fun tile =>
        (bytesIn walk.shown walk.space.tiling tile : Int) := by
  have kind : walk.space.used.kind = .int := by rw [TileStream.kind, adds.sound.used.descriptor]; rfl
  rw [TileStream.tallies_shown adds.used, kind]
  refine List.map_congr_left fun tile _ => ?_
  have fits := bytes_fit apart walk.space.tiling tile
  have tileSize : walk.space.tiling.tileEnd tile - walk.space.tiling.tileStart tile ≤
      walk.space.tiling.blockSize := by
    unfold Tiling.tileEnd
    omega
  have within : (bytesIn walk.shown walk.space.tiling tile : Int) ≤ ValueKind.int.highest := by
    change _ ≤ (2147483647 : Int)
    omega
  exact Int.min_eq_right within

theorem summary_in_order (sound : walk.space.Sound) (small : walk.space.tiling.blockSize ≤ 2 ^ 31 - 1)
    (within : walk.space.used.total ≤ walk.space.tiling.length) :
    ∃ total largest : Int32, walk.space.used.summary = [total, largest] ∧
      total.toInt ≤ largest.toInt := by
  have tiles := walk.space.tiling.length_le_tiles
  have size : TileStream.signedBytes walk.space.tiling.blockSize = walk.space.tiling.blockSize :=
    TileStream.signed_bytes_small (Nat.lt_of_le_of_lt small (by decide))
  have largest : (usedStream walk.space.tiling.blockSize).maxValue.toInt = walk.space.tiling.blockSize := by
    change (ValueKind.int.clamp _).toInt = _
    rw [ValueKind.to_int_clamp, size]
    change max (-2147483648) (min _ 2147483647) = _
    omega
  have summed : walk.space.used.summary = [ValueKind.int.clamp walk.space.used.total,
      ValueKind.int.clamp (walk.space.tiling.blockSize * walk.space.tiling.tileCount)] := by
    rw [TileStream.summary, sound.used.descriptor, largest, sound.used.values]
    rfl
  refine ⟨_, _, summed, ValueKind.int.clamp_mono ?_⟩
  rw [Int.mul_comm]
  exact within.trans (mod_cast tiles)

theorem apart_objects_counted_exactly (id : SpaceId) (name : String) (start stop blockSize : UInt64)
    (small : blockSize.toNat ≤ 2 ^ 31 - 1) (space : LinearSpace)
    (made : make id name start stop blockSize = .ok space) (operations : List Operation) :
    let walk := (ofSpace space).run operations
    let tiling := walk.space.tiling
    let used := walk.space.used
    let occupied := walk.shown.map fun object =>
      min object.size.toNat (tiling.stop - object.address.toNat)
    (walk.shown.Pairwise fun object other => Disjoint object.extent other.extent) →
    (∀ tile value, used.get tile = .ok value →
      value.toInt = bytesIn walk.shown tiling tile ∧
      value.toInt ≤ (tiling.tileEnd tile - tiling.tileStart tile : Nat)) ∧
    used.total = occupied.sum ∧ occupied.sum ≤ tiling.length ∧
    ∃ total largest : Int32, used.summary = [total, largest] ∧ total.toInt ≤ largest.toInt := by
  intro walk tiling used occupied apart
  have wide : blockSize.toNat < 2 ^ 63 := Nat.lt_of_le_of_lt small (by decide)
  have adds : walk.AddsUp := run_adds_up (made_adds_up made wide) operations
  have sameSize : tiling.blockSize = blockSize.toNat := by
    have reached : walk.space = space.run operations := run_space (ofSpace space) operations
    change walk.space.tiling.blockSize = _
    rw [reached, run_block_size (make_sound made).1 operations, made_block_size made]
  have block : tiling.blockSize ≤ 2 ^ 31 - 1 := sameSize ▸ small
  have values := apart_values adds block apart
  have parts : (walk.shown.map fun object => (object.part tiling).card) = occupied :=
    List.map_congr_left fun object _ => object.part_card tiling
  have total : used.total = occupied.sum := by
    rw [TileStream.total_of_amounts values, bytes_sum tiling adds.inside, parts]
  have fits : occupied.sum ≤ tiling.length := parts ▸ parts_fit apart tiling adds.inside
  refine ⟨?_, total, fits, summary_in_order adds.sound block (total ▸ mod_cast fits)⟩
  intro tile value got
  have shown : value.toInt = bytesIn walk.shown tiling tile := TileStream.amount_got values got
  rw [shown]
  exact ⟨rfl, mod_cast bytes_fit apart tiling tile⟩

-- One object within a tile, one across the border to the short tile, one that reaches past the end.
theorem four_objects_counted :
    let operations : List Operation := [.call (.scan 70 10 false), .call (.scan 10 20 true),
      .call (.scan 40 25 true), .call (.scan 90 100 true)]
    let walk (space : LinearSpace) := (ofSpace space).run operations
    ∃ space, make ⟨2⟩ "Main" 0 96 64 = .ok space ∧ (64 : UInt64).toNat ≤ 2 ^ 31 - 1 ∧
      (walk space).shown = [⟨70, 10, false⟩, ⟨10, 20, true⟩, ⟨40, 25, true⟩, ⟨90, 100, true⟩] ∧
      ((walk space).shown.Pairwise fun object other => Disjoint object.extent other.extent) ∧
      (walk space).space.used.total = 61 ∧
      ∃ total largest : Int32, (walk space).space.used.summary = [total, largest] ∧
        total.toInt ≤ largest.toInt := by
  intro operations walk
  have small : (64 : UInt64).toNat ≤ 2 ^ 31 - 1 := by decide
  have each (space : LinearSpace) (made : make ⟨2⟩ "Main" 0 96 64 = .ok space) :=
    apart_objects_counted_exactly ⟨2⟩ "Main" 0 96 64 small space made operations
  obtain ⟨space, made⟩ : ∃ space, make ⟨2⟩ "Main" 0 96 64 = .ok space := ⟨_, rfl⟩
  have shown : (walk space).shown =
      [⟨70, 10, false⟩, ⟨10, 20, true⟩, ⟨40, 25, true⟩, ⟨90, 100, true⟩] := by
    cases made
    decide +kernel
  have apart : (walk space).shown.Pairwise fun object other => Disjoint object.extent other.extent := by
    rw [shown]
    decide +kernel
  obtain ⟨_, total, _, summary⟩ := each space made apart
  refine ⟨space, made, small, shown, apart, total.trans ?_, summary⟩
  cases made
  decide +kernel

end Walk

end LinearSpace

end HeapScope
