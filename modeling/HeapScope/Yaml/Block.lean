import HeapScope.Digits
import HeapScope.Yaml.Cursor

namespace HeapScope.Yaml.Block

inductive Chomping where
  | strip
  | clip
  | keep
deriving DecidableEq

structure Header where
  chomping : Chomping
  -- Zero if the indentation is not told.
  indentation : Nat
  next : Cursor

def chomping? (cursor : Cursor) : Option Chomping :=
  match cursor.current with
  | some '+' => some .keep
  | some '-' => some .strip
  | _ => none

def indentation? (cursor : Cursor) : Option Nat := cursor.current >>= Digits.digit? 10

-- The marks after the bar or angle, in either order; an indentation of zero is refused.
def header? (cursor : Cursor) : Option Header := do
  let first := cursor.advance 1
  let header : Header := match chomping? first, indentation? first with
    | some chomping, _ =>
      let second := first.advance 1
      match indentation? second with
      | some indentation => ⟨chomping, indentation, second.advance 1⟩
      | none => ⟨chomping, 0, second⟩
    | none, some indentation =>
      let second := first.advance 1
      match chomping? second with
      | some chomping => ⟨chomping, indentation, second.advance 1⟩
      | none => ⟨.clip, indentation, second⟩
    | none, none => ⟨.clip, 0, first⟩
  let told := (indentation? first).isSome || ((chomping? first).isSome &&
    (indentation? (first.advance 1)).isSome)
  if told ∧ header.indentation = 0 then none
  let next ← header.next.nextLine?
  return { header with next }

structure Margin where
  breaks : List Char
  widest : Nat
  next : Cursor

-- With an indentation of zero all spaces are indentation.
def margin? (indentation : Nat) : Nat → Nat → Cursor → Option Margin
  | 0, widest, cursor => some ⟨[], widest, cursor⟩
  | fuel + 1, widest, cursor =>
    let spaces := (cursor.taken (· = ' ')).length
    let indented := cursor.advance
      (if indentation = 0 then spaces else min spaces (indentation - cursor.column))
    let widest := max widest indented.column
    if (indentation = 0 ∨ indented.column < indentation) ∧ indented.current = some '\t' then none
    else
      match indented.lineBreak? with
      | none => some ⟨[], widest, indented⟩
      | some (lineBreak, next) => do
        let margin ← margin? indentation fuel widest next
        return { margin with breaks := lineBreak :: margin.breaks }

structure Lines where
  text : List Char
  last : Option Char
  trailing : List Char
  next : Cursor

def between (literal touching : Bool) (last : Option Char) (trailing : List Char) : List Char :=
  if !literal && last = some '\n' && touching then
    if trailing.isEmpty then [' '] else trailing
  else last.toList ++ trailing

def lines? (literal : Bool) (indentation : Nat) :
    Nat → (last : Option Char) → (trailing : List Char) → (afterBlank : Bool) → Cursor → Option Lines
  | 0, last, trailing, _, cursor => some ⟨[], last, trailing, cursor⟩
  | fuel + 1, last, trailing, afterBlank, cursor =>
    if cursor.column ≠ indentation ∨ cursor.rest.isEmpty then some ⟨[], last, trailing, cursor⟩
    else do
      let startsBlank := cursor.current.any isBlank
      let line := cursor.taken (!isBreak ·)
      let stop := cursor.advance line.length
      let margin ← margin? indentation stop.rest.length 0 stop.skipBreak
      let others ← lines? literal indentation fuel (stop.lineBreak?.map (·.1)) margin.breaks
        startsBlank margin.next
      let before := between literal (!afterBlank && !startsBlank) last trailing
      return { others with text := before ++ line ++ others.text }

def ending (chomping : Chomping) (last : Option Char) (trailing : List Char) : List Char :=
  match chomping with
  | .strip => []
  | .clip => last.toList
  | .keep => last.toList ++ trailing

-- A scalar whose bar or angle is at the cursor, inside a block whose own lines are indented
-- `outer` columns, and at least `least`.
def scan? (literal : Bool) (outer least : Nat) (cursor : Cursor) : Option (String × Cursor) := do
  let header ← header? cursor
  let told := if header.indentation = 0 then 0 else outer + header.indentation
  let margin ← margin? told header.next.rest.length 0 header.next
  let indentation := if told = 0 then max margin.widest (max least 1) else told
  let lines ← lines? literal indentation margin.next.rest.length none margin.breaks false margin.next
  return (String.ofList (lines.text ++ ending header.chomping lines.last lines.trailing), lines.next)

end HeapScope.Yaml.Block
