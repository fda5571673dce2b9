import HeapScope.Proofs.LinearSpace.Words

namespace HeapScope

namespace Hex

theorem digit_char_inj : ∀ digit < 16, ∀ other < 16,
    Nat.digitChar digit = Nat.digitChar other → digit = other := by decide

theorem digit_no_dash : ∀ digit < 16, Nat.digitChar digit ≠ '-' := by decide

theorem digits_long {number : Nat} (long : 16 ≤ number) :
    Nat.toDigits 16 number = Nat.toDigits 16 (number / 16) ++ [Nat.digitChar (number % 16)] :=
  Nat.toDigits_of_base_le (by decide) long

theorem digits_short {number : Nat} (short : number < 16) :
    Nat.toDigits 16 number = [Nat.digitChar number] :=
  Nat.toDigits_of_lt_base short

-- The last digit tells the remainder, those before it the quotient.
theorem digits_inj {number other : Nat} (same : Nat.toDigits 16 number = Nat.toDigits 16 other) :
    number = other := by
  induction number using Nat.strongRecOn generalizing other with
  | ind number ih =>
    have lengths := congrArg List.length same
    by_cases short : number < 16
    · by_cases also : other < 16
      · rw [digits_short short, digits_short also] at same
        exact digit_char_inj number short other also (List.singleton_inj.mp same)
      · have more := Nat.length_toDigits_pos (b := 16) (n := other / 16)
        rw [digits_short short, digits_long (Nat.not_lt.mp also), List.length_append] at lengths
        simp only [List.length_singleton] at lengths
        omega
    · by_cases also : other < 16
      · have more := Nat.length_toDigits_pos (b := 16) (n := number / 16)
        rw [digits_long (Nat.not_lt.mp short), digits_short also, List.length_append] at lengths
        simp only [List.length_singleton] at lengths
        omega
      · rw [digits_long (Nat.not_lt.mp short), digits_long (Nat.not_lt.mp also)] at same
        obtain ⟨front, last⟩ := List.append_inj' same rfl
        have quotient := ih (number / 16) (by omega) front
        have remainder := digit_char_inj _ (Nat.mod_lt _ (by decide)) _ (Nat.mod_lt _ (by decide))
          (List.singleton_inj.mp last)
        omega

theorem digits_no_dash (number : Nat) : '-' ∉ Nat.toDigits 16 number := by
  induction number using Nat.strongRecOn with
  | ind number ih =>
    by_cases short : number < 16
    · rw [digits_short short, List.mem_singleton]
      exact (digit_no_dash number short).symm
    · rw [digits_long (Nat.not_lt.mp short), List.mem_append, List.mem_singleton, not_or]
      exact ⟨ih (number / 16) (by omega), (digit_no_dash _ (Nat.mod_lt _ (by decide))).symm⟩

theorem text_letters (number : Nat) : (text number).toList = '0' :: 'x' :: Nat.toDigits 16 number := by
  simp [text, digits]

theorem text_no_dash (number : Nat) : '-' ∉ (text number).toList := by
  simp [text_letters, digits_no_dash]

theorem text_inj {number other : Nat} (same : (text number).toList = (text other).toList) :
    number = other := by
  rw [text_letters, text_letters] at same
  exact digits_inj (List.cons.inj (List.cons.inj same).2).2

end Hex

namespace Tiling

variable {tiling : Tiling} {tile : Nat}

theorem tile_some (counted : tile < tiling.tileCount) : tiling.tileStart tile < tiling.tileEnd tile := by
  have inside := tile_lt_iff.mp counted
  have positive := tiling.positive
  unfold tileEnd
  omega

theorem tile_end_next (counted : tile + 1 < tiling.tileCount) :
    tiling.tileEnd tile = tiling.tileStart (tile + 1) := by
  have inside := tile_lt_iff.mp counted
  rw [tile_start_next] at inside ⊢
  exact Nat.min_eq_left (Nat.le_of_lt inside)

theorem tile_end_last (counted : tile + 1 = tiling.tileCount) : tiling.tileEnd tile = tiling.stop := by
  have behind : ¬tiling.tileStart (tile + 1) < tiling.stop :=
    fun inside => Nat.lt_irrefl _ (counted ▸ tile_lt_iff.mpr inside)
  rw [tile_start_next] at behind
  exact Nat.min_eq_right (Nat.not_lt.mp behind)

theorem tile_count_word (tiling : Tiling) : tiling.tileCount < 2 ^ 64 := by
  cases counted : tiling.tileCount with
  | zero => decide
  | succ last =>
    have within : last < tiling.tileCount := by omega
    exact tile_number_room within

-- The dash is no digit: what stands before it is the start of the tile.
theorem tile_label_inj {other : Nat} (same : tiling.tileLabel tile = tiling.tileLabel other) :
    tile = other := by
  have letters := congrArg String.toList same
  simp only [tileLabel, String.toList_append, List.append_assoc] at letters
  obtain ⟨starts, _⟩ :=
    (List.append_cons_inj_of_notMem (Hex.text_no_dash _) (Hex.text_no_dash _)).mp letters
  have first := Hex.text_inj starts
  unfold tileStart at first
  exact Nat.eq_of_mul_eq_mul_right tiling.positive (Nat.add_left_cancel first)

end Tiling

structure Tiling.Partitions (tiling : Tiling) (start stop blockSize : UInt64) : Prop where
  counted : tiling.tileCount < 2 ^ 64
  words : ∀ tile : UInt64, tile.toNat < tiling.tileCount →
    ∃ first last, tiling.tileStartWord? tile = some first ∧ tiling.tileEndWord? tile = some last ∧
      first.toNat = tiling.tileStart tile.toNat ∧ last.toNat = tiling.tileEnd tile.toNat ∧ first < last
  first : tiling.tileStart 0 = start.toNat
  next : ∀ tile, tile + 1 < tiling.tileCount → tiling.tileEnd tile = tiling.tileStart (tile + 1) ∧
    tiling.tileEnd tile - tiling.tileStart tile = blockSize.toNat
  last : ∀ tile, tile + 1 = tiling.tileCount → tiling.tileEnd tile = stop.toNat
  found : ∀ (address : UInt64) (tile : Nat), tiling.indexOf? address.toNat = some tile ↔
    tile < tiling.tileCount ∧ tiling.tileStart tile ≤ address.toNat ∧
      address.toNat < tiling.tileEnd tile
  missed : ∀ address : UInt64, tiling.indexOf? address.toNat = none ↔ address < start ∨ stop ≤ address
  labels : ∀ tile other, tile < tiling.tileCount → other < tiling.tileCount → tile ≠ other →
    tiling.tileLabel tile ≠ tiling.tileLabel other

theorem tiles_partition_range (start stop blockSize : UInt64) (ordered : start ≤ stop)
    (positive : 0 < blockSize) :
    ∃ tiling, Tiling.make start stop blockSize.toNat = .ok tiling ∧
      tiling.Partitions start stop blockSize := by
  have some : 0 < blockSize.toNat := UInt64.lt_iff_toNat_lt.mp positive
  have turned := UInt64.le_iff_toNat_le.mp ordered
  obtain ⟨tiling, is⟩ : ∃ tiling : Tiling, tiling =
      ⟨start.toNat, stop.toNat, blockSize.toNat, turned, stop.toNat_lt, some⟩ := ⟨_, rfl⟩
  have made : Tiling.make start stop blockSize.toNat = .ok tiling := is ▸ dif_pos ⟨some, turned⟩
  have word : tiling.blockSize < 2 ^ 64 := is ▸ blockSize.toNat_lt
  refine ⟨tiling, made, tiling.tile_count_word, ?words, ?first, ?next, ?last, ?found, ?missed, ?labels⟩
  case words =>
    intro tile counted
    obtain ⟨first, reached, begins⟩ := Tiling.tile_start_word word counted
    obtain ⟨last, ended, ends⟩ := Tiling.tile_end_word word counted
    have bytes := Tiling.tile_some counted
    exact ⟨first, last, reached, ended, begins, ends, UInt64.lt_iff_toNat_lt.mpr (by omega)⟩
  case first => rw [Tiling.tileStart, is, Nat.zero_mul, Nat.add_zero]
  case next =>
    intro tile counted
    have next := Tiling.tile_end_next counted
    have step := tiling.tile_start_next tile
    have block : tiling.blockSize = blockSize.toNat := by rw [is]
    exact ⟨next, by omega⟩
  case last =>
    intro tile counted
    rw [Tiling.tile_end_last counted, is]
  case found =>
    intro address tile
    rw [Tiling.index_of_iff]
    exact ⟨fun covers => ⟨Tiling.covers_counted covers, covers⟩, And.right⟩
  case missed =>
    intro address
    rw [Tiling.index_of_none_iff, UInt64.lt_iff_toNat_lt, UInt64.le_iff_toNat_le, is]
    simp only [Tiling.contains, Bool.and_eq_false_iff, decide_eq_false_iff_not, Nat.not_le, Nat.not_lt]
  case labels =>
    intro tile other _ _ apart same
    exact apart (Tiling.tile_label_inj same)

-- Three tiles at the top of the address space: the last one would end behind the largest address if it
-- were not cut off with the range.
theorem top_range_partitioned :
    let start : UInt64 := 18446744073709551446
    let stop : UInt64 := 18446744073709551615
    start ≤ stop ∧ (0 : UInt64) < 64 ∧
    ∃ tiling, Tiling.make start stop (64 : UInt64).toNat = .ok tiling ∧ tiling.tileCount = 3 ∧
      2 ^ 64 ≤ tiling.tileStart 2 + 64 ∧ tiling.tileEnd 2 = stop.toNat ∧
      (∃ first last, tiling.tileStartWord? 2 = some first ∧ tiling.tileEndWord? 2 = some last ∧
        first < last) ∧
      tiling.tileEnd 0 = tiling.tileStart 1 ∧ tiling.indexOf? stop.toNat = none ∧
      tiling.tileLabel 0 ≠ tiling.tileLabel 2 := by
  intro start stop
  have ordered : start ≤ stop := by decide
  have positive : (0 : UInt64) < 64 := by decide
  obtain ⟨tiling, made, partitions⟩ := tiles_partition_range start stop 64 ordered positive
  have is : tiling = ⟨start.toNat, stop.toNat, 64, by decide, by decide, by decide⟩ :=
    Except.ok.inj (made.symm.trans (dif_pos ⟨by decide, by decide⟩))
  have counted : tiling.tileCount = 3 := by
    rw [is]
    decide +kernel
  have beyond : 2 ^ 64 ≤ tiling.tileStart 2 + 64 := by
    rw [is]
    decide +kernel
  have third : (2 : UInt64).toNat < tiling.tileCount := by
    rw [counted]
    decide
  obtain ⟨first, behind, reached, ended, _, _, some⟩ := partitions.words 2 third
  exact ⟨ordered, positive, tiling, made, counted, beyond, partitions.last 2 counted.symm,
    ⟨first, behind, reached, ended, some⟩, (partitions.next 0 (by omega)).1,
    (partitions.missed stop).mpr (.inr (by decide)), partitions.labels 0 2 (by omega) (by omega) (by decide)⟩

end HeapScope
