import HeapScope.Bytes
import HeapScope.Json.Value

/- How values of a known shape are read from JSON. A record is an object of its fields in any order, where
   unknown fields are passed over and a known one may not come twice, or an array of its fields in their
   order. A choice is its name, alone or as the only key of an object with no value. -/
namespace HeapScope.Json

def natBelow? (limit : Nat) : Json → Option Nat
  | .number n => if 0 ≤ n ∧ n < limit then some n.toNat else none
  | _ => none

def byte? (json : Json) : Option UInt8 := (json.natBelow? (2 ^ 8)).map UInt8.ofNat

def word16? (json : Json) : Option UInt16 := (json.natBelow? (2 ^ 16)).map UInt16.ofNat

def word32? (json : Json) : Option UInt32 := (json.natBelow? (2 ^ 32)).map UInt32.ofNat

def int32? : Json → Option Int32
  | .number n => if -2147483648 ≤ n ∧ n ≤ 2147483647 then some (Int32.ofInt n) else none
  | _ => none

def bool? : Json → Option Bool
  | .bool b => some b
  | _ => none

def text? : Json → Option String
  | .text s => some s
  | _ => none

def list? (read : Json → Option α) : Json → Option (List α)
  | .array items => items.mapM read
  | _ => none

def choice? (choices : List (String × α)) : Json → Option α
  | .text name | .object [(name, .null)] => choices.lookup name
  | _ => none

def choiceText [DecidableEq α] (choices : List (String × α)) (choice : α) : Json :=
  match choices.find? fun entry => entry.2 = choice with
  | some (name, _) => .text name
  | none => .null

def record? (keys : List String) : Json → Option (List (String × Json))
  | .object fields =>
    let known := fields.filter fun field => keys.contains field.1
    if (known.map (·.1)).Nodup then some known else none
  | .array items => if items.length ≤ keys.length then some (keys.zip items) else none
  | _ => none

def field? (fields : List (String × Json)) (key : String) (read : Json → Option α) : Option α := do
  let json ← fields.lookup key
  read json

def optionalField? (fields : List (String × Json)) (key : String) (read : Json → Option α) :
    Option (Option α) :=
  match fields.lookup key with
  | none | some .null => some none
  | some json => (read json).map some

def fieldOr? (fields : List (String × Json)) (key : String) (read : Json → Option α)
    (absent : α) : Option α :=
  match fields.lookup key with
  | none => some absent
  | some json => read json

def ofNat (n : Nat) : Json := .number n

def ofByte (byte : UInt8) : Json := .number byte.toNat

def ofInt32 (value : Int32) : Json := .number value.toInt

def ofList (write : α → Json) (items : List α) : Json := .array (items.map write)

def ofOption (write : α → Json) : Option α → Json
  | none => .null
  | some item => write item

end HeapScope.Json
