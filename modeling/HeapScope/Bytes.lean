namespace HeapScope

-- Inside of this library powers and zeros are those of the core library, also where an import brings others.
attribute [scoped instance (high)] instPowNat Zero.ofOfNat0
attribute [default_instance 20000] instPowNat

abbrev Bytes := List UInt8

namespace Bytes

def bigEndian : Nat → Nat → Bytes
  | 0, _ => []
  | width + 1, n => bigEndian width (n / 256) ++ [UInt8.ofNat n]

def number (bytes : Bytes) : Nat :=
  bytes.foldl (fun n byte => n * 256 + byte.toNat) 0

theorem big_endian_length (width n : Nat) : (bigEndian width n).length = width := by
  induction width generalizing n with
  | zero => rfl
  | succ width ih => simp [bigEndian, ih]

theorem number_snoc (bytes : Bytes) (byte : UInt8) :
    number (bytes ++ [byte]) = number bytes * 256 + byte.toNat := by
  simp [number, List.foldl_append]

theorem number_big_endian (width n : Nat) : number (bigEndian width n) = n % 256 ^ width := by
  induction width generalizing n with
  | zero => simp [bigEndian, number, Nat.mod_one]
  | succ width ih =>
    rw [bigEndian, number_snoc, ih, Nat.pow_succ, Nat.mul_comm (256 ^ width) 256, Nat.mod_mul]
    simp only [UInt8.toNat_ofNat']
    omega

theorem number_big_endian_of_lt (width n : Nat) (small : n < 256 ^ width) :
    number (bigEndian width n) = n := by
  rw [number_big_endian, Nat.mod_eq_of_lt small]

theorem big_endian_snoc (width n : Nat) (byte : UInt8) :
    bigEndian (width + 1) (n * 256 + byte.toNat) = bigEndian width n ++ [byte] := by
  have bound := byte.toNat_lt
  have quotient : (n * 256 + byte.toNat) / 256 = n := by omega
  have digit : UInt8.ofNat (n * 256 + byte.toNat) = byte := by
    apply UInt8.toNat_inj.mp
    simp only [UInt8.toNat_ofNat']
    omega
  rw [bigEndian, quotient, digit]

theorem big_endian_number (bytes : Bytes) : bigEndian bytes.length (number bytes) = bytes := by
  suffices reversed : ∀ back : Bytes,
      bigEndian back.reverse.length (number back.reverse) = back.reverse by
    have := reversed bytes.reverse
    rwa [List.reverse_reverse] at this
  intro back
  induction back with
  | nil => rfl
  | cons byte back ih =>
    rw [List.reverse_cons, List.length_append, number_snoc]
    exact (big_endian_snoc _ _ _).trans (by rw [ih])

theorem number_lt (bytes : Bytes) : number bytes < 256 ^ bytes.length := by
  have written := number_big_endian bytes.length (number bytes)
  rw [big_endian_number] at written
  rw [written]
  exact Nat.mod_lt _ (Nat.pow_pos (by decide))

def signed (width n : Nat) : Int := Int.bmod n (256 ^ width)

def ofSigned (width : Nat) (value : Int) : Bytes :=
  bigEndian width (value % (256 ^ width : Nat)).toNat

theorem of_signed_length (width : Nat) (value : Int) : (ofSigned width value).length = width :=
  big_endian_length _ _

end Bytes

end HeapScope
