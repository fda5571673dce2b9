import HeapScope.Yaml.Cursor
import HeapScope.Yaml.Folding

namespace HeapScope.Yaml.Plain

def word? (inFlow : Bool) : List Char → Option (List Char)
  | [] => some []
  | c :: rest =>
    if isSpaceOrBreak c then some []
    else if inFlow && c = ':' && rest.head?.any (('?' :: flowMarks).contains ·) then none
    else if c = ':' && rest.head?.all isSpaceOrBreak then some []
    else if inFlow && flowMarks.contains c then some []
    else (word? inFlow rest).map (c :: ·)

-- Blanks and line breaks; a tab may not stand where indentation is expected.
def gap? (least : Nat) : Nat → Cursor → Gap → Option (Gap × Cursor)
  | 0, cursor, gap => some (gap, cursor)
  | fuel + 1, cursor, gap =>
    match cursor.lineBreak? with
    | some (lineBreak, next) => gap? least fuel next (gap.addBreak lineBreak)
    | none =>
      match cursor.current with
      | some c =>
        if !isBlank c then some (gap, cursor)
        else if gap.isBroken && c = '\t' && cursor.column < least then none
        else gap? least fuel (cursor.advance 1) (gap.addBlank c)
      | none => some (gap, cursor)

structure Scanned where
  text : List Char
  next : Cursor
  broken : Bool

def from? (inFlow : Bool) (least : Nat) : Nat → Gap → Cursor → Option Scanned
  | 0, before, cursor => some ⟨[], cursor, before.isBroken⟩
  | fuel + 1, before, cursor =>
    if cursor.atMarker || cursor.current = some '#' then some ⟨[], cursor, before.isBroken⟩
    else do
      let word ← word? inFlow cursor.rest
      if word.isEmpty then return ⟨[], cursor, before.isBroken⟩
      let written := before.text ++ word
      let last := cursor.advance word.length
      if !last.current.any isSpaceOrBreak then return ⟨written, last, false⟩
      let (gap, next) ← gap? least last.rest.length last .nothing
      if !inFlow && next.column < least then return ⟨written, next, gap.isBroken⟩
      let others ← from? inFlow least fuel gap next
      return ⟨written ++ others.text, others.next, others.broken⟩

def scan? (inFlow : Bool) (least : Nat) (cursor : Cursor) : Option Scanned :=
  from? inFlow least cursor.rest.length .nothing cursor

end HeapScope.Yaml.Plain
