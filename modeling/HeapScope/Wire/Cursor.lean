import HeapScope.Wire.Reader
import HeapScope.Word

/- A payload with the place that its reading has come to, on words of 64 bits. Bytes are taken only if the
   place behind them is a word and not behind the payload; what a count asks for is a product that is
   capped at the largest word. -/
namespace HeapScope.Wire

structure Cursor where
  payload : Bytes
  position : UInt64
  bounded : payload.length < 2 ^ 64
  inside : position.toNat ≤ payload.length

namespace Cursor

def left (cursor : Cursor) : Bytes := cursor.payload.drop cursor.position.toNat

def leftWord (cursor : Cursor) : UInt64 := .ofNat cursor.payload.length - cursor.position

def take (cursor : Cursor) (n : UInt64) (what : String) : Except Fault (Bytes × Cursor) :=
  match Word.sum? cursor.position n with
  | none => .error (.truncated what cursor.left.length)
  | some stop =>
    if inside : stop.toNat ≤ cursor.payload.length then
      .ok (cursor.left.take n.toNat, { cursor with position := stop, inside })
    else .error (.truncated what cursor.left.length)

def count (cursor : Cursor) (what : String) (least : UInt64) : Except Fault (UInt64 × Cursor) := do
  let (digits, behind) ← cursor.take 4 what
  let count := UInt64.ofNat (Bytes.number digits)
  if behind.leftWord < Word.cappedProduct count least then
    .error (.entriesDoNotFit what count.toNat behind.leftWord.toNat)
  else .ok (count, behind)

end Cursor

end HeapScope.Wire
