import HeapScope.Digits
import HeapScope.Json.Value

namespace HeapScope.Json

inductive Token where
  | openArray
  | closeArray
  | openObject
  | closeObject
  | colon
  | comma
  | text (s : Option String)
  | scalar (json : Json)

-- The text inside quotes so far, last character first, with the first half of a surrogate pair
-- that waits for its second, and whether all of it spells text.
structure Spelling where
  back : List Char
  half : Option Nat
  sound : Bool

namespace Spelling

def start : Spelling := ⟨[], none, true⟩

def push (spelling : Spelling) (c : Char) : Spelling :=
  ⟨c :: spelling.back, none, spelling.sound && spelling.half.isNone⟩

def pushUnit (spelling : Spelling) (unit : Nat) : Spelling :=
  let high := 0xd800 ≤ unit && unit < 0xdc00
  let low := 0xdc00 ≤ unit && unit < 0xe000
  match spelling.half with
  | some first =>
    if low then
      ⟨Char.ofNat (0x10000 + (first - 0xd800) * 0x400 + (unit - 0xdc00)) :: spelling.back, none,
        spelling.sound⟩
    else { spelling with half := none, sound := false }
  | none =>
    if high then { spelling with half := some unit }
    else if low then { spelling with sound := false }
    else spelling.push (Char.ofNat unit)

def finish (spelling : Spelling) : Option String :=
  if spelling.sound && spelling.half.isNone then some (String.ofList spelling.back.reverse)
  else none

end Spelling

inductive LexMode where
  | between
  | word (back : List Char)
  | number (back : List Char)
  | quoted (spelling : Spelling)
  | escaped (spelling : Spelling)
  | unit (spelling : Spelling) (digits value : Nat)
  | broken

structure LexState where
  back : List Token
  mode : LexMode

def isBlank (c : Char) : Bool := c = ' ' || c = '\t' || c = '\n' || c = '\r'

def isNumberChar (c : Char) : Bool :=
  c.isDigit || c = '-' || c = '+' || c = '.' || c = 'e' || c = 'E'

def digitsValue (digits : List Char) : Nat :=
  digits.foldl (fun n c => n * 10 + (c.toNat - '0'.toNat)) 0

def exponent? : List Char → Bool
  | 'e' :: '+' :: rest | 'e' :: '-' :: rest | 'E' :: '+' :: rest | 'E' :: '-' :: rest
  | 'e' :: rest | 'E' :: rest => !rest.isEmpty && rest.all Char.isDigit
  | rest => rest.isEmpty

def fraction? : List Char → Bool
  | '.' :: rest =>
    !(rest.takeWhile Char.isDigit).isEmpty && exponent? (rest.dropWhile Char.isDigit)
  | rest => exponent? rest

-- A number without its sign. Minus zero is a fraction's zero, not an integer.
def unsigned? (negative : Bool) (chars : List Char) : Option Json :=
  let whole := chars.takeWhile Char.isDigit
  let rest := chars.dropWhile Char.isDigit
  if whole.isEmpty || (whole.head? = some '0' && whole.length ≠ 1) then none
  else if rest.isEmpty then
    let n := digitsValue whole
    if !negative then some (.number n) else if n = 0 then some .other else some (.number (-n))
  else if fraction? rest then some .other
  else none

def number? : List Char → Option Json
  | '-' :: rest => unsigned? true rest
  | chars => unsigned? false chars

def word? (word : String) : Option Json :=
  match word with
  | "null" => some .null
  | "true" => some (.bool true)
  | "false" => some (.bool false)
  | _ => none

def LexState.add (state : LexState) (token : Token) : LexState := ⟨token :: state.back, .between⟩

def LexState.fail (state : LexState) : LexState := { state with mode := .broken }

def LexState.begin (state : LexState) (c : Char) : LexState :=
  match c with
  | '[' => state.add .openArray
  | ']' => state.add .closeArray
  | '\x7b' => state.add .openObject
  | '\x7d' => state.add .closeObject
  | ':' => state.add .colon
  | ',' => state.add .comma
  | '"' => { state with mode := .quoted .start }
  | c =>
    if isBlank c then { state with mode := .between }
    else if c.isDigit || c = '-' then { state with mode := .number [c] }
    else if c.isAlpha then { state with mode := .word [c] }
    else state.fail

def LexState.settle (state : LexState) : LexState :=
  match state.mode with
  | .word back =>
    match word? (String.ofList back.reverse) with
    | some json => state.add (.scalar json)
    | none => state.fail
  | .number back =>
    match number? back.reverse with
    | some json => state.add (.scalar json)
    | none => state.fail
  | _ => state

def LexState.escape (state : LexState) (spelling : Spelling) (c : Char) : LexState :=
  let add (c : Char) : LexState := { state with mode := .quoted (spelling.push c) }
  match c with
  | '"' => add '"'
  | '\\' => add '\\'
  | '/' => add '/'
  | 'b' => add '\x08'
  | 'f' => add '\x0c'
  | 'n' => add '\n'
  | 'r' => add '\r'
  | 't' => add '\t'
  | 'u' => { state with mode := .unit spelling 0 0 }
  | _ => state.fail

def LexState.step (state : LexState) (c : Char) : LexState :=
  match state.mode with
  | .between => state.begin c
  | .word back =>
    if c.isAlpha then { state with mode := .word (c :: back) }
    else
      let settled := state.settle
      match settled.mode with
      | .broken => settled
      | _ => settled.begin c
  | .number back =>
    if isNumberChar c then { state with mode := .number (c :: back) }
    else
      let settled := state.settle
      match settled.mode with
      | .broken => settled
      | _ => settled.begin c
  | .quoted spelling =>
    if c = '"' then state.add (.text spelling.finish)
    else if c = '\\' then { state with mode := .escaped spelling }
    else if c.toNat < 32 then state.fail
    else { state with mode := .quoted (spelling.push c) }
  | .escaped spelling => state.escape spelling c
  | .unit spelling digits value =>
    match Digits.digit? 16 c with
    | none => state.fail
    | some digit =>
      let value := value * 16 + digit
      if digits = 3 then { state with mode := .quoted (spelling.pushUnit value) }
      else { state with mode := .unit spelling (digits + 1) value }
  | .broken => state

def tokens? (s : String) : Option (List Token) :=
  let state := (s.toList.foldl LexState.step ⟨[], .between⟩).settle
  match state.mode with
  | .between => some state.back.reverse
  | _ => none

-- An open container with what it holds so far, last first. An object also has the key that waits
-- for its value, none if that key spells no text, and whether all keys before it did.
inductive Container where
  | array (back : List Json)
  | object (back : List (String × Json)) (sound : Bool) (key : Option String)

inductive Expect where
  | value
  | valueOrClose
  | key
  | keyOrClose
  | colon
  | commaOrClose
  | nothing

structure ParseState where
  containers : List Container
  expect : Expect
  result : Json

namespace ParseState

def start : ParseState := ⟨[], .value, .null⟩

def place (state : ParseState) (json : Json) : ParseState :=
  match state.containers with
  | [] => ⟨[], .nothing, json⟩
  | .array back :: outer => ⟨.array (json :: back) :: outer, .commaOrClose, state.result⟩
  | .object back sound (some key) :: outer =>
    ⟨.object ((key, json) :: back) sound none :: outer, .commaOrClose, state.result⟩
  | .object back _ none :: outer =>
    ⟨.object back false none :: outer, .commaOrClose, state.result⟩

def isOpen (state : ParseState) : Bool :=
  match state.expect with
  | .value | .valueOrClose => true
  | _ => false

def step (state : ParseState) (token : Token) : Option ParseState :=
  match token, state.expect, state.containers with
  | .text key, .key, .object back sound _ :: outer
  | .text key, .keyOrClose, .object back sound _ :: outer =>
    some { state with containers := .object back sound key :: outer, expect := .colon }
  | .text found, _, _ =>
    if state.isOpen then some (state.place (found.elim .other .text)) else none
  | .scalar json, _, _ => if state.isOpen then some (state.place json) else none
  | .openArray, _, containers =>
    if state.isOpen then
      some { state with containers := .array [] :: containers, expect := .valueOrClose }
    else none
  | .openObject, _, containers =>
    if state.isOpen then
      some { state with containers := .object [] true none :: containers, expect := .keyOrClose }
    else none
  | .colon, .colon, _ => some { state with expect := .value }
  | .comma, .commaOrClose, .array _ :: _ => some { state with expect := .value }
  | .comma, .commaOrClose, .object .. :: _ => some { state with expect := .key }
  | .closeArray, .valueOrClose, .array back :: outer
  | .closeArray, .commaOrClose, .array back :: outer =>
    some (place { state with containers := outer } (.array back.reverse))
  | .closeObject, .keyOrClose, .object back sound _ :: outer
  | .closeObject, .commaOrClose, .object back sound _ :: outer =>
    some (place { state with containers := outer } (if sound then .object back.reverse else .other))
  | _, _, _ => none

end ParseState

def parse? (s : String) : Option Json := do
  let tokens ← tokens? s
  let state ← tokens.foldlM ParseState.step .start
  match state.expect with
  | .nothing => some state.result
  | _ => none

end HeapScope.Json
