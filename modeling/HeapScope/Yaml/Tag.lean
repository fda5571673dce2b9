import HeapScope.Digits
import HeapScope.Utf8
import HeapScope.Yaml.Cursor
import HeapScope.Yaml.Token

namespace HeapScope.Yaml.Tag

def isTagChar (whole : Bool) (c : Char) : Bool :=
  isWordChar c || ";/?:@&=+$.%!~*'()".toList.contains c || (whole && ",[]".toList.contains c)

def escapedByte? : List Char → Option (UInt8 × List Char)
  | '%' :: high :: low :: rest => do
    let high ← Digits.digit? 16 high
    let low ← Digits.digit? 16 low
    return (UInt8.ofNat (high * 16 + low), rest)
  | _ => none

def sequenceWidth? (leading : UInt8) : Option Nat :=
  if leading < 0x80 then some 1
  else if leading < 0xc0 then none
  else if leading < 0xe0 then some 2
  else if leading < 0xf0 then some 3
  else if leading < 0xf8 then some 4
  else none

def trailingBytes? : Nat → List Char → Option (Bytes × List Char)
  | 0, text => some ([], text)
  | count + 1, text => do
    let (byte, rest) ← escapedByte? text
    if byte < 0x80 ∨ 0xc0 ≤ byte then none
    let (others, last) ← trailingBytes? count rest
    return (byte :: others, last)

def bytes? (whole : Bool) : Nat → List Char → Option (Bytes × List Char)
  | 0, text => some ([], text)
  | fuel + 1, text =>
    match text with
    | [] => some ([], [])
    | '%' :: _ => do
      let (leading, rest) ← escapedByte? text
      let width ← sequenceWidth? leading
      let (trailing, rest) ← trailingBytes? (width - 1) rest
      let (others, last) ← bytes? whole fuel rest
      return (leading :: trailing ++ others, last)
    | c :: rest =>
      if isTagChar whole c then do
        let (others, last) ← bytes? whole fuel rest
        return (Utf8.encode (String.singleton c) ++ others, last)
      else some ([], text)

def scanBytes? (whole : Bool) (cursor : Cursor) : Option (Bytes × Cursor) := do
  let (bytes, last) ← bytes? whole cursor.rest.length cursor.rest
  return (bytes, cursor.advance (cursor.rest.length - last.length))

def scanHandle? (cursor : Cursor) : Option (String × Cursor) :=
  if cursor.current = some '!' then
    let word := (cursor.advance 1).taken isWordChar
    let last := cursor.advance (1 + word.length)
    if last.current = some '!' then
      some (String.ofList ('!' :: word ++ ['!']), last.advance 1)
    else some (String.ofList ('!' :: word), last)
  else none

def isHandle (text : String) : Bool := 1 < text.length && text.toList.getLast? = some '!'

-- The parts of a tag: no handle for a whole tag or a lone mark.
def parts? (cursor : Cursor) : Option (String × Bytes × Cursor) := do
  if cursor.charAt 1 = some '<' then
    let (suffix, last) ← scanBytes? true (cursor.advance 2)
    if suffix.isEmpty ∨ last.current ≠ some '>' then none
    return ("", suffix, last.advance 1)
  let (handle, next) ← scanHandle? cursor
  let (suffix, last) ← scanBytes? false next
  if isHandle handle then
    if suffix.isEmpty then none
    return (handle, suffix, last)
  let suffix := Utf8.encode (String.ofList (handle.toList.drop 1)) ++ suffix
  if suffix.isEmpty then return ("", Utf8.encode "!", last)
  return ("!", suffix, last)

def scan? (inFlow : Bool) (cursor : Cursor) : Option (Token × Cursor) := do
  let (handle, suffix, last) ← parts? cursor
  if (inFlow ∧ last.current = some ',') ∨ last.gapAt 0 then return (.tag handle suffix, last)
  none

def versionNumber? (cursor : Cursor) : Option (Nat × Cursor) := do
  let digits := cursor.taken Char.isDigit
  if 9 < digits.length then none
  let number ← Digits.number? 10 (10 ^ 9) digits
  return (number, cursor.advance digits.length)

def versionDirective? (cursor : Cursor) : Option (Token × Cursor) := do
  let (major, dot) ← versionNumber? (cursor.skipWhile isBlank)
  if dot.current ≠ some '.' then none
  let (minor, last) ← versionNumber? (dot.advance 1)
  return (.version major minor, last)

def tagDirective? (cursor : Cursor) : Option (Token × Cursor) := do
  let (handle, next) ← scanHandle? (cursor.skipWhile isBlank)
  if !isHandle handle && handle ≠ "!" then none
  if !next.current.any isBlank then none
  let (stem, last) ← scanBytes? true (next.skipWhile isBlank)
  if stem.isEmpty ∨ !last.gapAt 0 then none
  return (.tagDirective handle stem, last)

def scanDirective? (cursor : Cursor) : Option (Token × Cursor) := do
  let name := (cursor.advance 1).taken isWordChar
  let next := cursor.advance (1 + name.length)
  if !next.gapAt 0 then none
  let (token, last) ← match String.ofList name with
    | "YAML" => versionDirective? next
    | "TAG" => tagDirective? next
    | _ => none
  let line ← last.nextLine?
  return (token, line)

end HeapScope.Yaml.Tag
