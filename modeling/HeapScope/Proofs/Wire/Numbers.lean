import HeapScope.ValueKind

namespace HeapScope

theorem Bytes.number_of_signed (width : Nat) (value : Int) :
    Bytes.number (Bytes.ofSigned width value) = (value % (256 ^ width : Nat)).toNat := by
  have positive : 0 < 256 ^ width := Nat.pow_pos (by decide)
  have below : value % (256 ^ width : Nat) < (256 ^ width : Nat) :=
    Int.emod_lt_of_pos value (by omega)
  exact Bytes.number_big_endian_of_lt width _ (by omega)

theorem Bytes.signed_of_signed (width : Nat) (value : Int)
    (low : -(256 ^ width : Nat) ≤ value * 2) (high : value * 2 < (256 ^ width : Nat)) :
    Bytes.signed width (Bytes.number (Bytes.ofSigned width value)) = value := by
  have positive : 0 < 256 ^ width := Nat.pow_pos (by decide)
  have remainder : 0 ≤ value % (256 ^ width : Nat) := Int.emod_nonneg value (by omega)
  rw [Bytes.signed, Bytes.number_of_signed, Int.toNat_of_nonneg remainder, Int.emod_bmod]
  exact Int.bmod_eq_of_le_mul_two low high

theorem Bytes.of_signed_signed (width n : Nat) (small : n < 256 ^ width) :
    Bytes.ofSigned width (Bytes.signed width n) = Bytes.bigEndian width n := by
  have same : Bytes.signed width n % (256 ^ width : Nat) = n := by
    rw [Bytes.signed, Int.bmod_emod]
    exact Int.emod_eq_of_lt (by omega) (by omega)
  rw [Bytes.ofSigned, same, Int.toNat_natCast]

theorem Bytes.signed_range (width n : Nat) :
    -(256 ^ width : Nat) ≤ Bytes.signed width n * 2 ∧
      Bytes.signed width n * 2 < (256 ^ width : Nat) := by
  have positive : 0 < 256 ^ width := Nat.pow_pos (by decide)
  have low := Int.le_bmod (x := n) positive
  have high := Int.bmod_lt (x := n) positive
  unfold Bytes.signed
  omega

namespace ValueKind

theorem holds_iff (kind : ValueKind) (value : Int32) :
    kind.holds value = true ↔ kind.lowest ≤ value.toInt ∧ value.toInt ≤ kind.highest := by
  simp [holds]

theorem int_holds (value : Int32) : ValueKind.int.holds value = true := by
  have low := value.le_toInt
  have high := value.toInt_lt
  simp only [holds_iff, lowest, highest]
  omega

theorem decode_encode (kind : ValueKind) (value : Int32) (held : kind.holds value = true) :
    kind.decode (Bytes.number (kind.encode value)) = value := by
  obtain ⟨low, high⟩ := (holds_iff kind value).mp held
  cases kind with
  | byte =>
    simp only [lowest, highest] at low high
    have small : ((value.toInt % (256 ^ 1 : Nat)).toNat : Int) = value.toInt := by omega
    simp only [decode, encode, width, Bytes.number_of_signed]
    rw [small, Int32.ofInt_toInt]
  | short =>
    simp only [lowest, highest] at low high
    have back := Bytes.signed_of_signed 2 value.toInt (by omega) (by omega)
    simp only [decode, encode, width, back, Int32.ofInt_toInt]
  | int =>
    simp only [lowest, highest] at low high
    have back := Bytes.signed_of_signed 4 value.toInt (by omega) (by omega)
    simp only [decode, encode, width, back, Int32.ofInt_toInt]

theorem decode_number (kind : ValueKind) (n : Nat) (small : n < 256 ^ kind.width) :
    kind.holds (kind.decode n) = true ∧
      kind.encode (kind.decode n) = Bytes.bigEndian kind.width n := by
  have range := Bytes.signed_range kind.width n
  rw [holds_iff]
  cases kind with
  | byte =>
    simp only [width] at small
    have value : (ValueKind.byte.decode n).toInt = n := Int32.toInt_ofInt_of_le (by omega) (by omega)
    have same : (n : Int) % (256 ^ 1 : Nat) = n := Int.emod_eq_of_lt (by omega) (by omega)
    simp only [encode, lowest, highest, value, width, Bytes.ofSigned, same, Int.toNat_natCast, and_true]
    omega
  | short =>
    simp only [width] at small range
    have value : (ValueKind.short.decode n).toInt = Bytes.signed 2 n := by
      rw [decode]
      exact Int32.toInt_ofInt_of_le (by omega) (by omega)
    simp only [encode, lowest, highest, value, width, Bytes.of_signed_signed 2 n small, and_true]
    omega
  | int =>
    simp only [width] at small range
    have value : (ValueKind.int.decode n).toInt = Bytes.signed 4 n := by
      rw [decode]
      exact Int32.toInt_ofInt_of_le (by omega) (by omega)
    simp only [encode, lowest, highest, value, width, Bytes.of_signed_signed 4 n small, and_true]
    omega

theorem encode_length (kind : ValueKind) (value : Int32) :
    (kind.encode value).length = kind.width :=
  Bytes.of_signed_length kind.width value.toInt

end ValueKind

end HeapScope
