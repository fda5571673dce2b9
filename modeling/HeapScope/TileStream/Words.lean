import HeapScope.TileStream
import HeapScope.Word

namespace HeapScope

def Tiling.tileStartWord? (tiling : Tiling) (tile : UInt64) : Option UInt64 := do
  let offset ← Word.product? tile (.ofNat tiling.blockSize)
  Word.sum? (.ofNat tiling.start) offset

def Tiling.tileEndWord? (tiling : Tiling) (tile : UInt64) : Option UInt64 := do
  let offset ← Word.product? tile (.ofNat tiling.blockSize)
  let first ← Word.sum? (.ofNat tiling.start) offset
  return Word.least (Word.cappedSum first (.ofNat tiling.blockSize)) (.ofNat tiling.stop)

-- The bytes before `address` have been given to the tiles before `tile`.
structure Spreading where
  stream : TileStream
  tile : UInt64
  address : UInt64
deriving DecidableEq, Repr

namespace Spreading

inductive Turn where
  | goesOn (next : Spreading)
  | ends (outcome : Except Error Unit)
  | overflows

def ofObject? (stream : TileStream) (tiling : Tiling) (address : UInt64) : Option Spreading :=
  if tiling.contains address.toNat then do
    let offset ← Word.difference? address (.ofNat tiling.start)
    return ⟨stream, offset / .ofNat tiling.blockSize, address⟩
  else none

def stopWord (tiling : Tiling) (address size : UInt64) : UInt64 :=
  Word.least (Word.cappedSum address size) (.ofNat tiling.stop)

def turn (spreading : Spreading) (tiling : Tiling) (stop : UInt64) : Turn :=
  if spreading.address < stop then
    match tiling.tileEndWord? spreading.tile with
    | none => .overflows
    | some tileEnd =>
      let upTo := Word.least tileEnd stop
      match Word.difference? upTo spreading.address with
      | none => .overflows
      | some bytes =>
        match spreading.stream.increment spreading.tile.toNat (TileStream.signedBytes bytes.toNat) with
        | .error error => .ends (.error error)
        | .ok stream =>
          match Word.sum? spreading.tile 1 with
          | none => .overflows
          | some tile => .goesOn ⟨stream, tile, upTo⟩
  else .ends (.ok ())

inductive Leads (tiling : Tiling) (stop : UInt64) : Spreading → Spreading → Prop where
  | here (spreading : Spreading) : Leads tiling stop spreading spreading
  | turned {spreading next last : Spreading} (goesOn : spreading.turn tiling stop = .goesOn next)
      (leads : Leads tiling stop next last) : Leads tiling stop spreading last

end Spreading

end HeapScope
