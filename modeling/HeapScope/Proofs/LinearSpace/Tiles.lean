import Mathlib.Algebra.BigOperators.Group.Finset.Basic
import Mathlib.Order.Interval.Finset.Nat
import HeapScope.Tiling

namespace HeapScope.Tiling

def Covers (tiling : Tiling) (tile address : Nat) : Prop :=
  tiling.tileStart tile ≤ address ∧ address < tiling.tileEnd tile

instance (tiling : Tiling) (tile address : Nat) : Decidable (tiling.Covers tile address) :=
  inferInstanceAs (Decidable (_ ∧ _))

def overlap (tiling : Tiling) (tile first stop : Nat) : Nat :=
  ((Finset.Ico first stop).filter (tiling.Covers tile)).card

variable {tiling : Tiling} {tile address : Nat}

theorem tile_start_next (tiling : Tiling) (tile : Nat) :
    tiling.tileStart (tile + 1) = tiling.tileStart tile + tiling.blockSize := by
  simp only [tileStart, Nat.succ_mul]
  omega

theorem tile_start_mono (tiling : Tiling) {tile other : Nat} (le : tile ≤ other) :
    tiling.tileStart tile ≤ tiling.tileStart other :=
  Nat.add_le_add_left (Nat.mul_le_mul_right _ le) _

theorem tile_end_le_start (tiling : Tiling) {tile other : Nat} (less : tile < other) :
    tiling.tileEnd tile ≤ tiling.tileStart other := by
  have next := tile_start_next tiling tile
  have later : tiling.tileStart (tile + 1) ≤ tiling.tileStart other := tile_start_mono tiling less
  unfold tileEnd
  omega

theorem tile_end_le_stop (tiling : Tiling) (tile : Nat) : tiling.tileEnd tile ≤ tiling.stop :=
  Nat.min_le_right _ _

theorem tile_lt_iff : tile < tiling.tileCount ↔ tiling.tileStart tile < tiling.stop := by
  have positive := tiling.positive
  have ordered := tiling.ordered
  have whole := Nat.le_div_iff_mul_le positive (x := tile + 1) (y := tiling.length + tiling.blockSize - 1)
  rw [Nat.succ_mul] at whole
  change tile + 1 ≤ tiling.tileCount ↔ _ at whole
  unfold tileStart
  unfold length at whole
  omega

theorem covers_counted (covers : tiling.Covers tile address) : tile < tiling.tileCount := by
  have before := tile_end_le_stop tiling tile
  exact tile_lt_iff.mpr (by unfold Covers at covers; omega)

theorem covers_inside (covers : tiling.Covers tile address) :
    tiling.start ≤ address ∧ address < tiling.stop := by
  have first : tiling.start ≤ tiling.tileStart tile := Nat.le_add_right _ _
  have last := tile_end_le_stop tiling tile
  unfold Covers at covers
  omega

theorem covers_next {tile first stop : Nat} (covers : tiling.Covers tile first)
    (within : stop ≤ tiling.stop) (left : min (tiling.tileEnd tile) stop < stop) :
    tiling.Covers (tile + 1) (min (tiling.tileEnd tile) stop) := by
  have following := tiling.tile_start_next tile
  have positive := tiling.positive
  unfold Covers tileEnd at *
  omega

theorem covers_unique {other : Nat} (covers : tiling.Covers tile address)
    (also : tiling.Covers other address) : tile = other := by
  unfold Covers at covers also
  rcases Nat.lt_trichotomy tile other with less | same | greater
  · have apart := tile_end_le_start tiling less
    omega
  · exact same
  · have apart := tile_end_le_start tiling greater
    omega

theorem index_covers (inside : tiling.start ≤ address ∧ address < tiling.stop) :
    tiling.Covers ((address - tiling.start) / tiling.blockSize) address := by
  have positive := tiling.positive
  have back := Nat.div_mul_le_self (address - tiling.start) tiling.blockSize
  have ahead := Nat.lt_div_mul_add positive (a := address - tiling.start)
  unfold Covers tileEnd tileStart
  omega

theorem index_of_iff : tiling.indexOf? address = some tile ↔ tiling.Covers tile address := by
  unfold indexOf?
  by_cases inside : tiling.start ≤ address ∧ address < tiling.stop
  · have found : tiling.contains address = true := by simpa [contains] using inside
    rw [if_pos found, Option.some_inj]
    constructor
    · intro same
      exact same ▸ index_covers inside
    · exact covers_unique (index_covers inside)
  · have missed : ¬tiling.contains address = true := by simpa [contains] using inside
    rw [if_neg missed]
    constructor
    · intro none
      cases none
    · intro covers
      exact absurd (covers_inside covers) inside

theorem index_of_none_iff : tiling.indexOf? address = none ↔ tiling.contains address = false := by
  simp [indexOf?]

theorem overlap_eq (tiling : Tiling) (tile first stop : Nat) :
    tiling.overlap tile first stop =
      min (tiling.tileEnd tile) stop - max (tiling.tileStart tile) first := by
  have both : (Finset.Ico first stop).filter (tiling.Covers tile) =
      Finset.Ico (max (tiling.tileStart tile) first) (min (tiling.tileEnd tile) stop) := by
    ext address
    simp only [Finset.mem_filter, Finset.mem_Ico, Covers]
    omega
  rw [overlap, both, Nat.card_Ico]

theorem overlap_first {tile first stop : Nat} (covers : tiling.Covers tile first) :
    tiling.overlap tile first stop = min (tiling.tileEnd tile) stop - first := by
  unfold Covers at covers
  rw [overlap_eq]
  omega

theorem overlap_behind {tile first stop : Nat} (covers : tiling.Covers tile first)
    (left : first < stop) (other : Nat) :
    tiling.overlap other (min (tiling.tileEnd tile) stop) stop =
      if other = tile then 0 else tiling.overlap other first stop := by
  unfold Covers at covers
  rw [overlap_eq, overlap_eq]
  rcases Nat.lt_trichotomy other tile with before | rfl | behind
  · have apart := tiling.tile_end_le_start before
    rw [if_neg (Nat.ne_of_lt before)]
    omega
  · rw [if_pos rfl]
    omega
  · have apart := tiling.tile_end_le_start behind
    rw [if_neg (Nat.ne_of_gt behind)]
    omega

theorem overlap_le (tiling : Tiling) (tile first stop : Nat) :
    tiling.overlap tile first stop ≤ tiling.blockSize := by
  rw [overlap_eq]
  unfold tileEnd
  omega

theorem overlaps_sum {first stop : Nat} (front : tiling.start ≤ first) (back : stop ≤ tiling.stop) :
    ((List.range tiling.tileCount).map fun tile => tiling.overlap tile first stop).sum =
      stop - first := by
  have tileOf (byte : Nat) (member : byte ∈ Finset.Ico first stop) :
      tiling.Covers ((byte - tiling.start) / tiling.blockSize) byte := by
    rw [Finset.mem_Ico] at member
    exact index_covers (by omega)
  have counted := Finset.card_eq_sum_card_fiberwise (s := Finset.Ico first stop)
    (t := Finset.range tiling.tileCount) (f := fun byte => (byte - tiling.start) / tiling.blockSize)
    fun byte member => Finset.mem_coe.mpr
      (Finset.mem_range.mpr (covers_counted (tileOf byte (Finset.mem_coe.mp member))))
  have same (tile : Nat) : (Finset.Ico first stop).filter
      (fun byte => (byte - tiling.start) / tiling.blockSize = tile) =
        (Finset.Ico first stop).filter (tiling.Covers tile) := by
    refine Finset.filter_congr fun byte member => ?_
    constructor
    · intro found
      exact found ▸ tileOf byte member
    · exact covers_unique (tileOf byte member)
  rw [Nat.card_Ico] at counted
  rw [counted]
  simp only [same]
  rfl

end HeapScope.Tiling
