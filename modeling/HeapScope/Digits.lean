namespace HeapScope.Digits

def digit? (base : Nat) (c : Char) : Option Nat :=
  let value :=
    if '0' ≤ c ∧ c ≤ '9' then c.toNat - '0'.toNat
    else if 'a' ≤ c ∧ c ≤ 'f' then c.toNat - 'a'.toNat + 10
    else if 'A' ≤ c ∧ c ≤ 'F' then c.toNat - 'A'.toNat + 10
    else base
  if value < base then some value else none

inductive Fault where
  | empty
  | notADigit
  | tooLarge
deriving DecidableEq, Repr

def Fault.text : Fault → String
  | .empty => "cannot parse integer from empty string"
  | .notADigit => "invalid digit found in string"
  | .tooLarge => "number too large to fit in target type"

def readFrom (base limit value : Nat) : List Char → Except Fault Nat
  | [] => .ok value
  | c :: rest =>
    match digit? base c with
    | none => .error .notADigit
    | some d =>
      if value * base + d < limit then readFrom base limit (value * base + d) rest
      else .error .tooLarge

def read (base limit : Nat) (text : List Char) : Except Fault Nat :=
  if text.isEmpty then .error .empty else readFrom base limit 0 text

def readUnsigned (base limit : Nat) : List Char → Except Fault Nat
  | '+' :: c :: rest => read base limit (c :: rest)
  | text => read base limit text

def number? (base limit : Nat) (text : List Char) : Option Nat := (read base limit text).toOption

end HeapScope.Digits
