import HeapScope.Yaml.Block
import HeapScope.Yaml.Plain
import HeapScope.Yaml.Quoted
import HeapScope.Yaml.Tag

/- The tokens of a YAML text. A colon may turn out to follow a key that was read before it was known to be
   one, so the place of a possible key is kept, for each flow collection that is open and for the block
   around them. Such a key lies on one line and is at most 1024 characters long. -/
namespace HeapScope.Yaml

structure PossibleKey where
  place : Nat
  required : Bool
  index : Nat
  line : Nat
  column : Nat

structure Lexer where
  cursor : Cursor
  tokens : Array Token
  columns : List Nat
  keyAllowed : Bool
  -- The possible keys of the open flow collections, innermost first, and of the block.
  keys : List (Option PossibleKey)

namespace Lexer

def start (text : String) : Lexer := ⟨.start text, #[], [], true, [none]⟩

def inFlow (lexer : Lexer) : Bool := 1 < lexer.keys.length

def leastColumn (lexer : Lexer) : Nat :=
  match lexer.columns with
  | [] => 0
  | column :: _ => column + 1

def push (lexer : Lexer) (token : Token) : Lexer :=
  { lexer with tokens := lexer.tokens.push token }

def skip (lexer : Lexer) (count : Nat) : Lexer :=
  { lexer with cursor := lexer.cursor.advance count }

def insertAt (lexer : Lexer) (place : Nat) (token : Token) : Lexer :=
  { lexer with tokens := lexer.tokens.insertIdxIfInBounds place token }

def openBlock (lexer : Lexer) (column place : Nat) (token : Token) : Lexer :=
  if lexer.inFlow || !lexer.columns.head?.all (· < column) then lexer
  else { lexer.insertAt place token with columns := column :: lexer.columns }

def openBlockHere (lexer : Lexer) (token : Token) : Lexer :=
  lexer.openBlock lexer.cursor.column lexer.tokens.size token

def closeBlocks (lexer : Lexer) (column : Option Nat) : Lexer :=
  if lexer.inFlow then lexer
  else
    let closed := lexer.columns.takeWhile fun c => column.all (· < c)
    { lexer with
      tokens := lexer.tokens ++ List.replicate closed.length Token.blockEnd
      columns := lexer.columns.drop closed.length }

def dropKey? (lexer : Lexer) : Option Lexer :=
  match lexer.keys with
  | some key :: outer => if key.required then none else some { lexer with keys := none :: outer }
  | _ => some lexer

def noteKey? (lexer : Lexer) : Option Lexer := do
  if !lexer.keyAllowed then return lexer
  let lexer ← lexer.dropKey?
  let key := {
    place := lexer.tokens.size
    required := !lexer.inFlow && lexer.columns.head? = some lexer.cursor.column
    index := lexer.cursor.index
    line := lexer.cursor.line
    column := lexer.cursor.column }
  return { lexer with keys := some key :: lexer.keys.drop 1 }

def isStale (cursor : Cursor) (key : PossibleKey) : Bool :=
  key.line < cursor.line || key.index + 1024 < cursor.index

def dropStaleKeys? (lexer : Lexer) : Option Lexer :=
  if lexer.keys.any fun key => key.any fun key => key.required && isStale lexer.cursor key then none
  else
    some { lexer with
      keys := lexer.keys.map fun key => key.bind fun key =>
        if isStale lexer.cursor key then none else some key }

-- Passes over blanks, comments and line breaks. A tab may not indent a line of a block.
def skipGap : Nat → Lexer → Lexer
  | 0, lexer => lexer
  | fuel + 1, lexer =>
    let tabs := lexer.inFlow || !lexer.keyAllowed
    let marked := if lexer.cursor.index = 0 && lexer.cursor.current = some '\ufeff' then
      lexer.cursor.advance 1 else lexer.cursor
    let next := (marked.skipWhile fun c => c = ' ' || (tabs && c = '\t')).skipComment
    match next.lineBreak? with
    | none => { lexer with cursor := next }
    | some (_, next) =>
      skipGap fuel { lexer with cursor := next, keyAllowed := !lexer.inFlow || lexer.keyAllowed }

def addDirective? (lexer : Lexer) : Option Lexer := do
  let lexer ← (lexer.closeBlocks none).dropKey?
  let (token, next) ← Tag.scanDirective? lexer.cursor
  return { lexer.push token with cursor := next, keyAllowed := false }

def addMarker? (lexer : Lexer) (token : Token) : Option Lexer := do
  let lexer ← (lexer.closeBlocks none).dropKey?
  return { (lexer.push token).skip 3 with keyAllowed := false }

def openFlow? (lexer : Lexer) (token : Token) : Option Lexer := do
  let lexer ← lexer.noteKey?
  return { (lexer.push token).skip 1 with keyAllowed := true, keys := none :: lexer.keys }

def closeFlow? (lexer : Lexer) (token : Token) : Option Lexer := do
  let lexer ← lexer.dropKey?
  let keys := if lexer.inFlow then lexer.keys.drop 1 else lexer.keys
  return { (lexer.push token).skip 1 with keyAllowed := false, keys }

def addFlowEntry? (lexer : Lexer) : Option Lexer := do
  let lexer ← lexer.dropKey?
  return { (lexer.push .flowEntry).skip 1 with keyAllowed := true }

def addBlockEntry? (lexer : Lexer) : Option Lexer := do
  if !lexer.inFlow && !lexer.keyAllowed then none
  let lexer ← (lexer.openBlockHere .blockSequence).dropKey?
  return { (lexer.push .blockEntry).skip 1 with keyAllowed := true }

def addKey? (lexer : Lexer) : Option Lexer := do
  if !lexer.inFlow && !lexer.keyAllowed then none
  let lexer ← (lexer.openBlockHere .blockMapping).dropKey?
  return { (lexer.push .key).skip 1 with keyAllowed := !lexer.inFlow }

-- A colon after a possible key makes it one; any other has a key of its own or none.
def addValue? (lexer : Lexer) : Option Lexer :=
  match lexer.keys with
  | some key :: outer =>
    let lexer := (lexer.insertAt key.place .key).openBlock key.column key.place .blockMapping
    some { (lexer.push .value).skip 1 with keyAllowed := false, keys := none :: outer }
  | _ =>
    if lexer.inFlow then some { (lexer.push .value).skip 1 with keyAllowed := false }
    else if lexer.keyAllowed then
      some { ((lexer.openBlockHere .blockMapping).push .value).skip 1 with keyAllowed := true }
    else none

def afterName : List Char := ['?', ':', ',', ']', '}', '%', '@', '\x60']

def addName? (lexer : Lexer) (token : String → Token) : Option Lexer := do
  let lexer ← lexer.noteKey?
  let name := (lexer.cursor.advance 1).taken isWordChar
  let next := lexer.cursor.advance (1 + name.length)
  let ended := next.gapAt 0 || next.current.any (afterName.contains ·)
  if name.isEmpty || !ended then none
  return { lexer.push (token (String.ofList name)) with cursor := next, keyAllowed := false }

def addTag? (lexer : Lexer) : Option Lexer := do
  let lexer ← lexer.noteKey?
  let (token, next) ← Tag.scan? lexer.inFlow lexer.cursor
  return { lexer.push token with cursor := next, keyAllowed := false }

def addBlockScalar? (lexer : Lexer) (literal : Bool) : Option Lexer := do
  let lexer ← lexer.dropKey?
  let (text, next) ←
    Block.scan? literal (lexer.columns.headD 0) lexer.leastColumn lexer.cursor
  let style := if literal then ScalarStyle.literal else .folded
  return { lexer.push (.scalar style text) with cursor := next, keyAllowed := true }

def addQuoted? (lexer : Lexer) (quote : Quoted.Quote) : Option Lexer := do
  let lexer ← lexer.noteKey?
  let (text, next) ← Quoted.scan? quote lexer.cursor
  return { lexer.push (.scalar .quoted text) with cursor := next, keyAllowed := false }

def addPlain? (lexer : Lexer) : Option Lexer := do
  let lexer ← lexer.noteKey?
  let scanned ← Plain.scan? lexer.inFlow lexer.leastColumn lexer.cursor
  return { lexer.push (.scalar .plain (String.ofList scanned.text)) with
    cursor := scanned.next
    keyAllowed := scanned.broken }

def indicators : List Char :=
  flowMarks ++ ['#', '&', '*', '!', '|', '>', '\'', '"', '%', '@', '\x60']

def startsPlain (inFlow : Bool) (cursor : Cursor) (c : Char) : Bool :=
  if c = '-' then !(cursor.charAt 1).any isBlank
  else if c = '?' ∨ c = ':' then !inFlow && !cursor.gapAt 1
  else !isSpaceOrBreak c && !indicators.contains c

def addToken? (lexer : Lexer) (c : Char) : Option Lexer :=
  let cursor := lexer.cursor
  if cursor.column = 0 ∧ c = '%' then lexer.addDirective?
  else if cursor.atMarker then
    lexer.addMarker? (if c = '-' then .documentStart else .documentEnd)
  else
    let indicator := lexer.inFlow || cursor.gapAt 1
    match c with
    | '[' => lexer.openFlow? .flowSequence
    | '{' => lexer.openFlow? .flowMapping
    | ']' => lexer.closeFlow? .flowSequenceEnd
    | '}' => lexer.closeFlow? .flowMappingEnd
    | ',' => lexer.addFlowEntry?
    | '*' => lexer.addName? .alias
    | '&' => lexer.addName? .anchor
    | '!' => lexer.addTag?
    | '\'' => lexer.addQuoted? .single
    | '"' => lexer.addQuoted? .double
    | _ =>
      if c = '-' ∧ cursor.gapAt 1 then lexer.addBlockEntry?
      else if c = '?' ∧ indicator then lexer.addKey?
      else if c = ':' ∧ indicator then lexer.addValue?
      else if (c = '|' ∨ c = '>') ∧ !lexer.inFlow then lexer.addBlockScalar? (c = '|')
      else if startsPlain lexer.inFlow cursor c then lexer.addPlain?
      else none

def finish? (lexer : Lexer) : Option Lexer := (lexer.closeBlocks none).dropKey?

def run? : Nat → Lexer → Option Lexer
  | 0, _ => none
  | fuel + 1, lexer => do
    let lexer ← (lexer.skipGap (lexer.cursor.rest.length + 1)).dropStaleKeys?
    let lexer := lexer.closeBlocks (some lexer.cursor.column)
    match lexer.cursor.current with
    | none => lexer.finish?
    | some c => run? fuel (← lexer.addToken? c)

end Lexer

def tokens? (text : String) : Option (List Token) := do
  if !text.toList.all isAllowed then none
  let lexer ← (Lexer.start text).run? (text.length + 1)
  return lexer.tokens.toList

end HeapScope.Yaml
