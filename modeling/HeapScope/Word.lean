import HeapScope.Bytes

namespace HeapScope.Word

def sum? (word other : UInt64) : Option UInt64 :=
  if word.toNat + other.toNat < 2 ^ 64 then some (word + other) else none

def product? (word other : UInt64) : Option UInt64 :=
  if word.toNat * other.toNat < 2 ^ 64 then some (word * other) else none

def difference? (word other : UInt64) : Option UInt64 :=
  if other.toNat ≤ word.toNat then some (word - other) else none

def largest : UInt64 := 0xffffffffffffffff

def cappedSum (word other : UInt64) : UInt64 := (sum? word other).getD largest

def cappedProduct (word other : UInt64) : UInt64 := (product? word other).getD largest

def least (word other : UInt64) : UInt64 := if word ≤ other then word else other

theorem sum_fits (word other : UInt64) (fits : word.toNat + other.toNat < 2 ^ 64) :
    sum? word other = some (word + other) ∧ (word + other).toNat = word.toNat + other.toNat := by
  refine ⟨if_pos fits, ?_⟩
  rw [UInt64.toNat_add, Nat.mod_eq_of_lt fits]

theorem product_fits (word other : UInt64) (fits : word.toNat * other.toNat < 2 ^ 64) :
    product? word other = some (word * other) ∧ (word * other).toNat = word.toNat * other.toNat := by
  refine ⟨if_pos fits, ?_⟩
  rw [UInt64.toNat_mul, Nat.mod_eq_of_lt fits]

theorem difference_fits (word other : UInt64) (fits : other.toNat ≤ word.toNat) :
    difference? word other = some (word - other) ∧ (word - other).toNat = word.toNat - other.toNat :=
  ⟨if_pos fits, UInt64.toNat_sub_of_le _ _ (UInt64.le_iff_toNat_le.mpr fits)⟩

theorem capped_sum_number (word other : UInt64) :
    (cappedSum word other).toNat = min (word.toNat + other.toNat) (2 ^ 64 - 1) := by
  by_cases fits : word.toNat + other.toNat < 2 ^ 64
  · obtain ⟨summed, number⟩ := sum_fits word other fits
    rw [cappedSum, summed, Option.getD_some, number]
    omega
  · have top : largest.toNat = 2 ^ 64 - 1 := rfl
    rw [cappedSum, sum?, if_neg fits, Option.getD_none, top]
    omega

theorem capped_product_number (word other : UInt64) :
    (cappedProduct word other).toNat = min (word.toNat * other.toNat) (2 ^ 64 - 1) := by
  by_cases fits : word.toNat * other.toNat < 2 ^ 64
  · obtain ⟨multiplied, number⟩ := product_fits word other fits
    rw [cappedProduct, multiplied, Option.getD_some, number]
    omega
  · have top : largest.toNat = 2 ^ 64 - 1 := rfl
    rw [cappedProduct, product?, if_neg fits, Option.getD_none, top]
    omega

theorem least_number (word other : UInt64) : (least word other).toNat = min word.toNat other.toNat := by
  unfold least
  split
  · rename_i before
    exact (Nat.min_eq_left (UInt64.le_iff_toNat_le.mp before)).symm
  · rename_i behind
    exact (Nat.min_eq_right (Nat.le_of_not_le fun le => behind (UInt64.le_iff_toNat_le.mpr le))).symm

end HeapScope.Word
