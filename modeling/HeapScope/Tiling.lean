import HeapScope.Error

namespace HeapScope

structure Tiling where
  start : Nat
  stop : Nat
  blockSize : Nat
  ordered : start ≤ stop
  bounded : stop < 2 ^ 64
  positive : 0 < blockSize
deriving DecidableEq, Repr

namespace Tiling

def make (start stop : UInt64) (blockSize : Nat) : Except Error Tiling :=
  if valid : 0 < blockSize ∧ start.toNat ≤ stop.toNat then
    .ok ⟨start.toNat, stop.toNat, blockSize, valid.2, stop.toNat_lt, valid.1⟩
  else .error (.invalidRange start.toNat stop.toNat blockSize)

def length (tiling : Tiling) : Nat := tiling.stop - tiling.start

def isEmpty (tiling : Tiling) : Bool := tiling.start = tiling.stop

def tileCount (tiling : Tiling) : Nat :=
  (tiling.length + tiling.blockSize - 1) / tiling.blockSize

def contains (tiling : Tiling) (address : Nat) : Bool :=
  tiling.start ≤ address && address < tiling.stop

def indexOf? (tiling : Tiling) (address : Nat) : Option Nat :=
  if tiling.contains address then some ((address - tiling.start) / tiling.blockSize) else none

def tileStart (tiling : Tiling) (index : Nat) : Nat := tiling.start + index * tiling.blockSize

def tileEnd (tiling : Tiling) (index : Nat) : Nat :=
  min (tiling.tileStart index + tiling.blockSize) tiling.stop

def tileLabel (tiling : Tiling) (index : Nat) : String :=
  Hex.text (tiling.tileStart index) ++ "-" ++ Hex.text (tiling.tileEnd index)

def tileLabels (tiling : Tiling) : List String := (List.range tiling.tileCount).map tiling.tileLabel

def checkTile (tiling : Tiling) (index : Nat) : Except Error Unit :=
  if index < tiling.tileCount then .ok () else .error (.tileOutOfRange index tiling.tileCount)

end Tiling

end HeapScope
