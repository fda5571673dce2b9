import HeapScope.Digits
import HeapScope.Hex

/- Socket addresses. A host is four decimal numbers with dots between them, or eight hexadecimal groups in
   brackets, where one run of zero groups may be left out and the last two groups may be written as four
   decimal numbers; a zone number may follow the groups. The port follows the last colon. -/
namespace HeapScope

structure Ipv4 where
  a : UInt8
  b : UInt8
  c : UInt8
  d : UInt8
deriving DecidableEq, Repr

abbrev Ipv6 := Vector UInt16 8

inductive Host where
  | v4 (address : Ipv4)
  | v6 (address : Ipv6) (zone : UInt32)
deriving DecidableEq

structure SocketAddress where
  host : Host
  port : UInt16
deriving DecidableEq

def Host.pieces (separator : Char) : List Char → List (List Char)
  | [] => [[]]
  | c :: rest =>
    if c = separator then [] :: pieces separator rest
    else
      match pieces separator rest with
      | [] => [[c]]
      | piece :: others => (c :: piece) :: others

namespace Ipv4

def octet? (piece : List Char) : Option UInt8 :=
  if piece.head? = some '0' ∧ 1 < piece.length then none
  else if 3 < piece.length then none
  else (Digits.number? 10 256 piece).map UInt8.ofNat

def ofChars? (text : List Char) : Option Ipv4 := do
  match Host.pieces '.' text with
  | [a, b, c, d] => return ⟨← octet? a, ← octet? b, ← octet? c, ← octet? d⟩
  | _ => none

def groups (address : Ipv4) : List UInt16 :=
  [address.a.toUInt16 * 256 + address.b.toUInt16, address.c.toUInt16 * 256 + address.d.toUInt16]

def text (address : Ipv4) : String :=
  s!"{address.a.toNat}.{address.b.toNat}.{address.c.toNat}.{address.d.toNat}"

end Ipv4

namespace Ipv6

def group? (piece : List Char) : Option UInt16 :=
  if 4 < piece.length then none else (Digits.number? 16 (2 ^ 16) piece).map UInt16.ofNat

def groupsOfPieces? : List (List Char) → Option (List UInt16)
  | [] => some []
  | [piece] =>
    match Ipv4.ofChars? piece with
    | some address => some address.groups
    | none => (group? piece).map fun group => [group]
  | piece :: others => do
    let group ← group? piece
    let groups ← groupsOfPieces? others
    return group :: groups

def groups? (text : List Char) : Option (List UInt16) :=
  if text.isEmpty then some [] else groupsOfPieces? (Host.pieces ':' text)

def leadingGroups? (text : List Char) : Option (List UInt16) :=
  if text.isEmpty then some [] else (Host.pieces ':' text).mapM group?

def splitAtGap? : List Char → Option (List Char × List Char)
  | [] => none
  | c :: rest =>
    if c = ':' ∧ rest.head? = some ':' then some ([], rest.drop 1)
    else (splitAtGap? rest).map fun (before, after) => (c :: before, after)

def ofGroups? (groups : List UInt16) : Option Ipv6 :=
  if exact : groups.length = 8 then some ⟨groups.toArray, by simpa using exact⟩ else none

-- A gap stands for at least one group.
def ofChars? (text : List Char) : Option Ipv6 := do
  match splitAtGap? text with
  | none => ofGroups? (← groups? text)
  | some (before, after) =>
    let front ← leadingGroups? before
    let back ← groups? after
    if front.length + back.length < 8 then
      ofGroups? (front ++ List.replicate (8 - front.length - back.length) 0 ++ back)
    else none

structure ZeroRun where
  start : Nat
  length : Nat

def longestZeros (groups : List UInt16) : ZeroRun :=
  let runs := groups.zipIdx.foldl (fun (state : ZeroRun × ZeroRun) (group, index) =>
    let (current, best) := state
    if group = 0 then
      let grown := if current.length = 0 then ⟨index, 1⟩ else ⟨current.start, current.length + 1⟩
      (grown, if best.length < grown.length then grown else best)
    else (⟨0, 0⟩, best)) (⟨0, 0⟩, ⟨0, 0⟩)
  runs.2

def groupsText (groups : List UInt16) : String :=
  ":".intercalate (groups.map fun group => Hex.digits group.toNat)

-- Two or more zero groups are left out; an embedded IPv4 address is written in decimal.
def text (address : Ipv6) : String :=
  match address.toList with
  | [0, 0, 0, 0, 0, 0xffff, high, low] =>
    "::ffff:" ++ Ipv4.text ⟨(high / 256).toUInt8, high.toUInt8, (low / 256).toUInt8, low.toUInt8⟩
  | groups =>
    let run := longestZeros groups
    if 1 < run.length then
      groupsText (groups.take run.start) ++ "::" ++ groupsText (groups.drop (run.start + run.length))
    else groupsText groups

end Ipv6

namespace Host

def zone? (text : List Char) : Option UInt32 := (Digits.number? 10 (2 ^ 32) text).map UInt32.ofNat

def ofBracketed? (inside : List Char) : Option Host := do
  match pieces '%' inside with
  | [groups] => return .v6 (← Ipv6.ofChars? groups) 0
  | [groups, zone] => return .v6 (← Ipv6.ofChars? groups) (← zone? zone)
  | _ => none

def ofChars? (text : List Char) : Option Host :=
  match text with
  | '[' :: rest => if rest.getLast? = some ']' then ofBracketed? rest.dropLast else none
  | _ => (Ipv4.ofChars? text).map .v4

def text : Host → String
  | .v4 address => address.text
  | .v6 address zone =>
    if zone = 0 then "[" ++ Ipv6.text address ++ "]"
    else "[" ++ Ipv6.text address ++ s!"%{zone.toNat}]"

def isLocal : Host → Bool
  | .v4 address => address.a = 127 || address = ⟨0, 0, 0, 0⟩
  | .v6 address _ =>
    address.toList.take 7 = List.replicate 7 0 && (address.toList.getLast? = some 0
      || address.toList.getLast? = some 1)

def addressText : Host → String
  | .v4 address => address.text
  | .v6 address _ => Ipv6.text address

end Host

namespace SocketAddress

def port? (text : List Char) : Option UInt16 := (Digits.number? 10 (2 ^ 16) text).map UInt16.ofNat

def splitAtPort? : List Char → Option (List Char × List Char)
  | [] => none
  | c :: rest =>
    match splitAtPort? rest with
    | some (before, after) => some (c :: before, after)
    | none => if c = ':' then some ([], rest) else none

def ofChars? (text : List Char) : Option SocketAddress := do
  let (host, port) ← splitAtPort? text
  return ⟨← Host.ofChars? host, ← port? port⟩

def ofText? (text : String) : Option SocketAddress := ofChars? text.toList

def text (address : SocketAddress) : String := address.host.text ++ s!":{address.port.toNat}"

end SocketAddress

end HeapScope
