import HeapScope.Bytes
import HeapScope.Digits
import HeapScope.Yaml.Cursor
import HeapScope.Yaml.Folding

namespace HeapScope.Yaml.Quoted

inductive Quote where
  | single
  | double
deriving DecidableEq

def Quote.char : Quote → Char
  | .single => '\''
  | .double => '"'

def escapes : List (Char × Char) :=
  [('0', '\x00'), ('a', '\x07'), ('b', '\x08'), ('t', '\t'), ('\t', '\t'), ('n', '\n'), ('v', '\x0b'),
    ('f', '\x0c'), ('r', '\r'), ('e', '\x1b'), (' ', ' '), ('"', '"'), ('/', '/'), ('\\', '\\'),
    ('N', '\u0085'), ('_', '\u00a0'), ('L', '\u2028'), ('P', '\u2029')]

def codeLengths : List (Char × Nat) := [('x', 2), ('u', 4), ('U', 8)]

def codePoint? (digits : List Char) (length : Nat) : Option Char := do
  if digits.length < length then none
  let value ← Digits.number? 16 (2 ^ 32) digits
  if 0xd800 ≤ value ∧ value ≤ 0xdfff ∨ 0x10ffff < value then none
  else some (Char.ofNat value)

def escape? (cursor : Cursor) : Option (Piece × Cursor) := do
  let letter ← cursor.charAt 1
  if isBreak letter then return (.joined, (cursor.advance 1).skipBreak)
  match escapes.lookup letter with
  | some c => return (.char c, cursor.advance 2)
  | none =>
    let length ← codeLengths.lookup letter
    let c ← codePoint? ((cursor.advance 2).rest.take length) length
    return (.char c, cursor.advance (2 + length))

inductive Found where
  | closing
  | piece (piece : Piece) (next : Cursor)
  | nothing

def look (quote : Quote) (cursor : Cursor) : Found :=
  match cursor.current with
  | none => .nothing
  | some c =>
    if cursor.atMarker then .nothing
    else if quote = .single ∧ c = '\'' ∧ cursor.charAt 1 = some '\'' then
      .piece (.char c) (cursor.advance 2)
    else if c = quote.char then .closing
    else if isBlank c then .piece (.blank c) (cursor.advance 1)
    else if quote = .double ∧ c = '\\' then
      match escape? cursor with
      | some (piece, next) => .piece piece next
      | none => .nothing
    else
      match cursor.lineBreak? with
      | some (lineBreak, next) => .piece (.lineBreak lineBreak) next
      | none => .piece (.char c) (cursor.advance 1)

def pieces? (quote : Quote) : Nat → Cursor → Option (List Piece × Cursor)
  | 0, _ => none
  | fuel + 1, cursor =>
    match look quote cursor with
    | .nothing => none
    | .closing => some ([], cursor.advance 1)
    | .piece piece next => do
      let (others, last) ← pieces? quote fuel next
      return (piece :: others, last)

def scan? (quote : Quote) (cursor : Cursor) : Option (String × Cursor) := do
  let (found, last) ← pieces? quote cursor.rest.length (cursor.advance 1)
  return (String.ofList (folded found), last)

end HeapScope.Yaml.Quoted
