namespace HeapScope.Yaml

def isBlank (c : Char) : Bool := c = ' ' || c = '\t'

def isBreak (c : Char) : Bool :=
  c = '\n' || c = '\r' || c = '\u0085' || c = '\u2028' || c = '\u2029'

def isSpaceOrBreak (c : Char) : Bool := isBlank c || isBreak c

def isWordChar (c : Char) : Bool := c.isAlphanum || c = '_' || c = '-'

def flowMarks : List Char := [',', '[', ']', '{', '}']

def isAllowed (c : Char) : Bool :=
  let n := c.toNat
  c = '\t' || c = '\n' || c = '\r' || (0x20 ≤ n && n ≤ 0x7e) || n = 0x85
    || (0xa0 ≤ n && n ≤ 0xd7ff) || (0xe000 ≤ n && n ≤ 0xfffd) || 0x10000 ≤ n

structure Cursor where
  rest : List Char
  index : Nat
  line : Nat
  column : Nat

namespace Cursor

def start (text : String) : Cursor := ⟨text.toList, 0, 0, 0⟩

def current (cursor : Cursor) : Option Char := cursor.rest.head?

def charAt (cursor : Cursor) (offset : Nat) : Option Char := cursor.rest[offset]?

def gapAt (cursor : Cursor) (offset : Nat) : Bool := (cursor.charAt offset).all isSpaceOrBreak

def advance (cursor : Cursor) (count : Nat) : Cursor :=
  { cursor with
    rest := cursor.rest.drop count
    index := cursor.index + count
    column := cursor.column + count }

def taken (cursor : Cursor) (keep : Char → Bool) : List Char := cursor.rest.takeWhile keep

def skipWhile (cursor : Cursor) (keep : Char → Bool) : Cursor :=
  cursor.advance (cursor.taken keep).length

def newLine (cursor : Cursor) (count : Nat) : Cursor :=
  { rest := cursor.rest.drop count
    index := cursor.index + count
    line := cursor.line + 1
    column := 0 }

def lineBreak? (cursor : Cursor) : Option (Char × Cursor) :=
  match cursor.rest with
  | '\r' :: '\n' :: _ => some ('\n', cursor.newLine 2)
  | c :: _ =>
    if isBreak c then
      some (if c = '\u2028' ∨ c = '\u2029' then c else '\n', cursor.newLine 1)
    else none
  | [] => none

def skipBreak (cursor : Cursor) : Cursor :=
  match cursor.lineBreak? with
  | some (_, next) => next
  | none => cursor

def skipComment (cursor : Cursor) : Cursor :=
  if cursor.current = some '#' then cursor.skipWhile (!isBreak ·) else cursor

def nextLine? (cursor : Cursor) : Option Cursor :=
  let last := (cursor.skipWhile isBlank).skipComment
  if last.current.all isBreak then some last.skipBreak else none

def startsWith (cursor : Cursor) (mark : String) : Bool := mark.toList.isPrefixOf cursor.rest

def atMarker (cursor : Cursor) : Bool :=
  cursor.column = 0 && (cursor.startsWith "---" || cursor.startsWith "...") && cursor.gapAt 3

end Cursor

end HeapScope.Yaml
