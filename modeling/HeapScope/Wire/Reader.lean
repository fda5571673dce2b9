import HeapScope.Hex
import HeapScope.Utf8

/- Reading fields off the front of a byte string. A reader returns its item with the bytes that follow it.
   A fault remembers how many bytes were left where it arose, so that its offset can be told once the
   whole length is known. -/
namespace HeapScope.Wire

inductive Fault where
  | truncated (what : String) (left : Nat)
  | notBool (what : String) (value : UInt8)
  | notText (what : String) (fault : Option Utf8.Fault)
  | entriesDoNotFit (what : String) (count left : Nat)
  | unknownKind (code : UInt8)
  | unknownPresentation (code : UInt8)
  | unknownPaintStyle (code : UInt8)
  | unknownOpcode (code : UInt8) (left : Nat)
  | wrongVersion (version : UInt8)
deriving DecidableEq, Repr

abbrev Reader (α : Type) := Bytes → Except Fault (α × Bytes)

namespace Reader

protected def pure (item : α) : Reader α := fun bytes => .ok (item, bytes)

protected def bind (first : Reader α) (next : α → Reader β) : Reader β := fun bytes =>
  match first bytes with
  | .error fault => .error fault
  | .ok (item, rest) => next item rest

instance : Monad Reader where
  pure := Reader.pure
  bind := Reader.bind

def fail (fault : Fault) : Reader α := fun _ => .error fault

def take (n : Nat) (what : String) : Reader Bytes := fun bytes =>
  let front := bytes.take n
  if front.length = n then .ok (front, bytes.drop n) else .error (.truncated what bytes.length)

def number (width : Nat) (what : String) : Reader Nat := do
  let front ← take width what
  return Bytes.number front

def byte (what : String) : Reader UInt8 := do
  let n ← number 1 what
  return UInt8.ofNat n

def bool (what : String) : Reader Bool := do
  match ← byte what with
  | 0 => return false
  | 1 => return true
  | other => fail (.notBool what other)

def text (what : String) : Reader String := do
  let length ← number 2 what
  let bytes ← take length what
  match Utf8.decode? bytes with
  | some text => return text
  | none => fail (.notText what (Utf8.firstFault bytes))

def entries (what : String) (least : Nat) : Reader Nat := do
  let count ← number 4 what
  fun bytes =>
    if bytes.length < count * least then .error (.entriesDoNotFit what count bytes.length)
    else .ok (count, bytes)

def manyAfter (read : Reader α) (found : List α) : Nat → Bytes → Except Fault (List α × Bytes)
  | 0, bytes => .ok (found.reverse, bytes)
  | n + 1, bytes =>
    match read bytes with
    | .error fault => .error fault
    | .ok (item, rest) => manyAfter read (item :: found) n rest

def many (read : Reader α) (n : Nat) : Reader (List α) := manyAfter read [] n

def Forward (read : Reader α) : Prop :=
  ∀ bytes item rest, read bytes = .ok (item, rest) → rest <:+ bytes

theorem forward_pure (item : α) : Forward (pure item : Reader α) := by
  intro bytes found rest done
  cases done
  exact List.suffix_rfl

theorem forward_fail (fault : Fault) : Forward (fail fault : Reader α) := by
  intro bytes found rest done
  cases done

theorem forward_bind {first : Reader α} {next : α → Reader β} (firstForward : Forward first)
    (nextForward : ∀ item, Forward (next item)) : Forward (first >>= next) := by
  intro bytes found rest done
  change Reader.bind first next bytes = .ok (found, rest) at done
  unfold Reader.bind at done
  split at done
  · cases done
  · rename_i item middle reached
    exact (nextForward item middle found rest done).trans (firstForward bytes item middle reached)

theorem forward_take (n : Nat) (what : String) : Forward (take n what) := by
  intro bytes found rest done
  simp only [take] at done
  split at done
  · cases done
    exact List.drop_suffix n bytes
  · cases done

theorem forward_number (width : Nat) (what : String) : Forward (number width what) :=
  forward_bind (forward_take width what) fun _ => forward_pure _

theorem forward_byte (what : String) : Forward (byte what) :=
  forward_bind (forward_number 1 what) fun _ => forward_pure _

theorem forward_bool (what : String) : Forward (bool what) := by
  refine forward_bind (forward_byte what) fun value => ?_
  split
  · exact forward_pure _
  · exact forward_pure _
  · exact forward_fail _

theorem forward_text (what : String) : Forward (text what) := by
  refine forward_bind (forward_number 2 what) fun length => ?_
  refine forward_bind (forward_take length what) fun bytes => ?_
  split
  · exact forward_pure _
  · exact forward_fail _

theorem forward_entries (what : String) (least : Nat) : Forward (entries what least) := by
  refine forward_bind (forward_number 4 what) fun count => ?_
  intro bytes found rest done
  dsimp only at done
  split at done
  · cases done
  · cases done
    exact List.suffix_rfl

theorem forward_many_after {read : Reader α} (forward : Forward read) (found : List α) (n : Nat) :
    Forward (manyAfter read found n) := by
  induction n generalizing found with
  | zero =>
    intro bytes items rest done
    cases done
    exact List.suffix_rfl
  | succ n ih =>
    intro bytes items rest done
    simp only [manyAfter] at done
    split at done
    · cases done
    · rename_i item middle reached
      exact (ih (item :: found) middle items rest done).trans (forward bytes item middle reached)

theorem forward_many {read : Reader α} (forward : Forward read) (n : Nat) : Forward (many read n) :=
  forward_many_after forward [] n

end Reader

def Fault.reason (total : Nat) : Fault → String
  | .truncated what left => "truncated " ++ what ++ s!" at offset {total - left}"
  | .notBool what value => what ++ s!": {value.toNat} is not a bool"
  | .notText what fault =>
    what ++ " is not UTF-8: " ++ (fault.map Utf8.Fault.text).getD ""
  | .entriesDoNotFit what count left => what ++ s!": {count} entries do not fit in {left} bytes"
  | .unknownKind code => s!"unknown stream kind {code.toNat}"
  | .unknownPresentation code => s!"unknown presentation {code.toNat}"
  | .unknownPaintStyle code => s!"unknown paint style {code.toNat}"
  | .unknownOpcode code left => "unknown opcode " ++ Hex.byteText code ++ s!" at offset {total - left}"
  | .wrongVersion version => s!"protocol version {version.toNat}, expected 1"

end HeapScope.Wire
