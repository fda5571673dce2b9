import HeapScope.Bytes

namespace HeapScope

inductive ValueKind where
  | byte
  | short
  | int
deriving DecidableEq, Repr

namespace ValueKind

def all : List ValueKind := [.byte, .short, .int]

def code : ValueKind → UInt8
  | .byte => 0
  | .short => 1
  | .int => 2

def ofCode? (code : UInt8) : Option ValueKind := all.find? (·.code = code)

def width : ValueKind → Nat
  | .byte => 1
  | .short => 2
  | .int => 4

def text : ValueKind → String
  | .byte => "byte"
  | .short => "short"
  | .int => "int"

def lowest : ValueKind → Int
  | .byte => 0
  | .short => -32768
  | .int => -2147483648

def highest : ValueKind → Int
  | .byte => 255
  | .short => 32767
  | .int => 2147483647

def holds (kind : ValueKind) (value : Int32) : Bool :=
  kind.lowest ≤ value.toInt && value.toInt ≤ kind.highest

def clamp (kind : ValueKind) (n : Int) : Int32 :=
  Int32.ofInt (max kind.lowest (min n kind.highest))

def encode (kind : ValueKind) (value : Int32) : Bytes := Bytes.ofSigned kind.width value.toInt

def decode (kind : ValueKind) (n : Nat) : Int32 :=
  match kind with
  | .byte => Int32.ofInt n
  | .short => Int32.ofInt (Bytes.signed 2 n)
  | .int => Int32.ofInt (Bytes.signed 4 n)

theorem code_read_back (kind : ValueKind) : ofCode? kind.code = some kind := by
  cases kind <;> rfl

theorem code_of_known {code : UInt8} {kind : ValueKind} (known : ofCode? code = some kind) :
    kind.code = code := by
  simpa using List.find?_some known

theorem lowest_le_highest (kind : ValueKind) : kind.lowest ≤ kind.highest := by
  cases kind <;> decide

theorem to_int_clamp (kind : ValueKind) (n : Int) :
    (kind.clamp n).toInt = max kind.lowest (min n kind.highest) := by
  have low : -2147483648 ≤ kind.lowest := by cases kind <;> decide
  have high : kind.highest ≤ 2147483647 := by cases kind <;> decide
  have order := kind.lowest_le_highest
  exact Int32.toInt_ofInt_of_le (by omega) (by omega)

theorem clamp_held (kind : ValueKind) (n : Int) : kind.holds (kind.clamp n) = true := by
  have order := kind.lowest_le_highest
  simp only [holds, to_int_clamp, Bool.and_eq_true, decide_eq_true_eq]
  omega

end ValueKind

end HeapScope
