import HeapScope.Settings
import HeapScope.Yaml.Document

/- Settings written in YAML: one mapping, or nothing at all for the defaults. Names that are not known are
   passed over, a known one may not come twice. A text is any scalar; truth values and numbers are scalars
   without quotes, or literal blocks with the tag of their kind. -/
namespace HeapScope.Settings

open Yaml

def tagged (kind : String) : Bytes := Utf8.encode ("tag:yaml.org,2002:" ++ kind)

def standsFor (scalar : Scalar) (kind : String) : Bool :=
  scalar.style = .plain || (scalar.style = .literal && scalar.tag = some (tagged kind))

def truthWords : List (String × Bool) :=
  [("true", true), ("True", true), ("TRUE", true), ("false", false), ("False", false),
    ("FALSE", false)]

def truth? (scalar : Scalar) : Option Bool :=
  if standsFor scalar "bool" then truthWords.lookup scalar.text else none

def basedDigits? : List Char → Option (Nat × List Char)
  | '0' :: 'x' :: digits => some (16, digits)
  | '0' :: 'o' :: digits => some (8, digits)
  | '0' :: 'b' :: digits => some (2, digits)
  | _ => none

-- A whole number that may have a plus sign; a zero in front of other digits is refused.
def number? (limit : Nat) (scalar : Scalar) : Option Nat := do
  if !standsFor scalar "int" then none
  let text := scalar.text.toList
  let digits := if text.head? = some '+' then text.drop 1 else text
  match basedDigits? digits with
  | some (base, digits) => Digits.number? base limit digits
  | none =>
    if digits.head? = some '0' ∧ 1 < digits.length then none
    else Digits.number? 10 limit digits

structure Fields where
  entries : List (String × Node)
  document : Document

def field? (fields : Fields) (name : String) (read : Scalar → Option α) (absent : α) : Option α :=
  match fields.entries.lookup name with
  | none => some absent
  | some node => fields.document.scalar? node >>= read

def ofFields? (fields : Fields) : Option Settings := do
  let enabled ← field? fields "enabled" truth? default.enabled
  let serverName ← field? fields "serverName" (some ·.text) default.serverName
  let bindAddress ← field? fields "bindAddress" (some ·.text) default.bindAddress
  let port ← field? fields "port" (number? (2 ^ 16)) default.port.toNat
  let waitForClient ← field? fields "waitForClient" truth? default.waitForClient
  let generalInfo ← field? fields "generalInfo" (some ·.text) default.generalInfo
  let frameLimit ← field? fields "maxFrameLen" (number? (2 ^ 64)) default.frameLimit
  let verbose ← field? fields "verbose" truth? default.verbose
  return {
    enabled, serverName, bindAddress, waitForClient, generalInfo, frameLimit, verbose
    port := UInt16.ofNat port }

def names : List String :=
  ["enabled", "serverName", "bindAddress", "port", "waitForClient", "generalInfo", "maxFrameLen",
    "verbose"]

def ofDocument? (document : Document) : Option Settings :=
  match document.root with
  | none => some default
  | some (.scalar scalar) =>
    if scalar.style = .plain ∧ scalar.text.isEmpty then some default else none
  | some (.mapping entries) => do
    let named ← entries.mapM fun (key, value) =>
      (document.scalar? key).map fun name => (name.text, value)
    let known := named.filter fun entry => names.contains entry.1
    if ¬(known.map (·.1)).Nodup then none
    ofFields? ⟨known, document⟩
  | _ => none

def read? (text : String) : Option Settings := Document.ofText? text >>= ofDocument?

def ofYaml (text : String) (reader : String → Option Settings := read?) : Except Error Settings :=
  match reader text with
  | none => .error .unreadableSettings
  | some settings => validated settings

def ofFile (content : Option String) (reader : String → Option Settings := read?) :
    Except Error Settings :=
  match content with
  | none => .error (.transport .noSuchFile)
  | some text => ofYaml text reader

end HeapScope.Settings
