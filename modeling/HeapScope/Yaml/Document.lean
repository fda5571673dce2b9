import HeapScope.Yaml.Lexer

namespace HeapScope.Yaml

structure Scalar where
  style : ScalarStyle
  tag : Option Bytes
  text : String
deriving DecidableEq, Repr

inductive Node where
  | scalar (scalar : Scalar)
  | alias (number : Nat)
  | sequence (items : List Node)
  | mapping (entries : List (Node × Node))

-- An anchor has as its number how many names were known before it. Of two anchors with one number
-- the later counts. A collection has no scalar.
abbrev Anchors := List (Nat × Option Scalar)

structure Document where
  root : Option Node
  anchors : Anchors

structure Composing where
  tokens : List Token
  names : List (String × Nat)
  anchors : Anchors
  handles : List (String × Bytes)

abbrev Compose := StateT Composing Option

namespace Compose

def current : Compose (Option Token) := return (← get).tokens.head?

def skip : Compose Unit := modify fun state => { state with tokens := state.tokens.drop 1 }

def skipIf (token : Token) : Compose Bool := do
  if (← current) = some token then
    skip
    return true
  return false

def expect (token : Token) : Compose Unit := do
  if !(← skipIf token) then failure

def isAny (token : Option Token) (tokens : List Token) : Bool := token.any (tokens.contains ·)

def anchorTo (anchor : Option String) (target : Option Scalar) : Compose Unit :=
  modify fun state =>
    match anchor with
    | none => state
    | some name =>
      let number := (state.names.map (·.1)).eraseDups.length
      { state with
        names := (name, number) :: state.names
        anchors := (number, target) :: state.anchors }

def numberOf (name : String) : Compose Nat := do
  match (← get).names.lookup name with
  | some number => return number
  | none => failure

def wholeTag (handle : String) (suffix : Bytes) : Compose Bytes := do
  if handle.isEmpty then return suffix
  match (← get).handles.lookup handle with
  | some stem => return stem ++ suffix
  | none => failure

def anchor? : Compose (Option String) := do
  match ← current with
  | some (.anchor name) => skip; return some name
  | _ => return none

def tag? : Compose (Option (String × Bytes)) := do
  match ← current with
  | some (.tag handle suffix) => skip; return some (handle, suffix)
  | _ => return none

structure Properties where
  anchor : Option String
  tag : Option Bytes

def properties : Compose Properties := do
  let before ← anchor?
  let tag ← tag?
  let anchor ← if before.isNone ∧ tag.isSome then anchor? else pure before
  match tag with
  | none => return ⟨anchor, none⟩
  | some (handle, suffix) => return ⟨anchor, some (← wholeTag handle suffix)⟩

def emptyScalar : Node := .scalar ⟨.plain, none, ""⟩

mutual

-- A node. Block collections are read only in a block, and a sequence without indentation of its own
-- only where a mapping holds it.
def node : Nat → (inBlock bareSequence : Bool) → Compose Node
  | 0, _, _ => failure
  | fuel + 1, inBlock, bareSequence => do
    if let some (.alias name) ← current then
      skip
      return .alias (← numberOf name)
    let properties ← properties
    let opened (token : Token) : Compose Unit := do
      expect token
      anchorTo properties.anchor none
    match ← current with
    | some (.scalar style text) =>
      skip
      let scalar := ⟨style, properties.tag, text⟩
      anchorTo properties.anchor (some scalar)
      return .scalar scalar
    | some .flowSequence =>
      opened .flowSequence
      return .sequence (← flowItems fuel true)
    | some .flowMapping =>
      opened .flowMapping
      return .mapping (← flowEntries fuel true)
    | token =>
      if bareSequence ∧ token = some .blockEntry then
        anchorTo properties.anchor none
        return .sequence (← bareItems fuel)
      if inBlock ∧ token = some .blockSequence then
        opened .blockSequence
        return .sequence (← blockItems fuel)
      if inBlock ∧ token = some .blockMapping then
        opened .blockMapping
        return .mapping (← blockEntries fuel)
      if properties.anchor.isNone ∧ properties.tag.isNone then failure
      let scalar := ⟨.plain, properties.tag, ""⟩
      anchorTo properties.anchor (some scalar)
      return .scalar scalar

def nodeBefore : Nat → (inBlock bareSequence : Bool) → List Token → Compose Node
  | 0, _, _, _ => failure
  | fuel + 1, inBlock, bareSequence, followers => do
    if isAny (← current) followers then return emptyScalar
    node fuel inBlock bareSequence

def blockItems : Nat → Compose (List Node)
  | 0 => failure
  | fuel + 1 => do
    if ← skipIf .blockEnd then return []
    expect .blockEntry
    let item ← nodeBefore fuel true false [.blockEntry, .blockEnd]
    return item :: (← blockItems fuel)

def bareItems : Nat → Compose (List Node)
  | 0 => failure
  | fuel + 1 => do
    if !(← skipIf .blockEntry) then return []
    let item ← nodeBefore fuel true false [.blockEntry, .key, .value, .blockEnd]
    return item :: (← bareItems fuel)

def blockEntries : Nat → Compose (List (Node × Node))
  | 0 => failure
  | fuel + 1 => do
    if ← skipIf .blockEnd then return []
    expect .key
    let key ← nodeBefore fuel true true [.key, .value, .blockEnd]
    let value ← if ← skipIf .value then nodeBefore fuel true true [.key, .value, .blockEnd]
      else pure emptyScalar
    return (key, value) :: (← blockEntries fuel)

def loneEntry : Nat → Compose (Node × Node)
  | 0 => failure
  | fuel + 1 => do
    let followers := [Token.flowEntry, .flowSequenceEnd]
    if isAny (← current) (.value :: followers) then
      skip
      let value ← if ← skipIf .value then nodeBefore fuel false false followers
        else pure emptyScalar
      return (emptyScalar, value)
    let key ← node fuel false false
    let value ← if ← skipIf .value then nodeBefore fuel false false followers
      else pure emptyScalar
    return (key, value)

def flowItems : Nat → (first : Bool) → Compose (List Node)
  | 0, _ => failure
  | fuel + 1, first => do
    if ← skipIf .flowSequenceEnd then return []
    if !first then expect .flowEntry
    if ← skipIf .flowSequenceEnd then return []
    let item ← if ← skipIf .key then (fun entry => .mapping [entry]) <$> loneEntry fuel
      else node fuel false false
    return item :: (← flowItems fuel false)

def flowEntries : Nat → (first : Bool) → Compose (List (Node × Node))
  | 0, _ => failure
  | fuel + 1, first => do
    if ← skipIf .flowMappingEnd then return []
    if !first then expect .flowEntry
    if ← skipIf .flowMappingEnd then return []
    let followers := [Token.flowEntry, .flowMappingEnd]
    if ← skipIf .key then
      let key ← nodeBefore fuel false false (.value :: followers)
      let value ← if ← skipIf .value then nodeBefore fuel false false followers
        else pure emptyScalar
      return (key, value) :: (← flowEntries fuel false)
    let key ← node fuel false false
    return (key, emptyScalar) :: (← flowEntries fuel false)

end

def defaultHandles : List (String × Bytes) :=
  [("!", Utf8.encode "!"), ("!!", Utf8.encode "tag:yaml.org,2002:")]

-- The directives before a document. Each may stand there once.
def directives : Nat → (versioned : Bool) → List (String × Bytes) → Compose (List (String × Bytes))
  | 0, _, _ => failure
  | fuel + 1, versioned, handles => do
    match ← current with
    | some (.version major minor) =>
      if versioned ∨ major ≠ 1 ∨ (minor ≠ 1 ∧ minor ≠ 2) then failure
      skip
      directives fuel true handles
    | some (.tagDirective handle stem) =>
      if (handles.lookup handle).isSome then failure
      skip
      directives fuel versioned ((handle, stem) :: handles)
    | _ => return handles

def isDirective : Token → Bool
  | .version .. | .tagDirective .. => true
  | _ => false

def explicitDocument (fuel : Nat) : Compose Node := do
  let handles ← directives fuel false []
  modify fun state => { state with handles := handles ++ defaultHandles }
  expect .documentStart
  let token ← current
  if token.all fun token => isDirective token || token = .documentStart || token = .documentEnd then
    return emptyScalar
  node fuel true false

def documentEnds : Nat → Compose Unit
  | 0 => failure
  | fuel + 1 => do
    if ← skipIf .documentEnd then documentEnds fuel
    else if (← current).isSome then failure

def document : Compose (Option Node) := do
  let tokens := (← get).tokens
  let fuel := 4 * tokens.length + 4
  match tokens with
  | [] => return none
  | token :: _ =>
    let root ← if isDirective token || token = .documentStart then explicitDocument fuel
      else node fuel true false
    documentEnds fuel
    return root

end Compose

def Document.ofText? (text : String) : Option Document := do
  let tokens ← tokens? text
  let (root, state) ← Compose.document.run ⟨tokens, [], [], Compose.defaultHandles⟩
  return ⟨root, state.anchors⟩

def Document.scalar? (document : Document) : Node → Option Scalar
  | .scalar scalar => some scalar
  | .alias number => (document.anchors.lookup number).join
  | _ => none

end HeapScope.Yaml
