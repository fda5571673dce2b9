import HeapScope.Descriptor
import HeapScope.Tiling

/- The values of one stream, one for each tile. Sums are exact and then clamped to the kind of the stream.
   A call that finds no tile fails; what `distribute` did to the tiles before that stays. -/
namespace HeapScope

structure TileStream where
  descriptor : StreamDescriptor
  values : List Int32
deriving DecidableEq, Repr

namespace TileStream

def signedBytes (count : Nat) : Int := Bytes.signed 8 count

def make (descriptor : StreamDescriptor) (tiles : Nat) : TileStream :=
  ⟨descriptor, List.replicate tiles descriptor.defaultValue⟩

def kind (stream : TileStream) : ValueKind := stream.descriptor.kind

def missing (stream : TileStream) (tile : Nat) : Error :=
  .tileOutOfRange tile stream.values.length

def get (stream : TileStream) (tile : Nat) : Except Error Int32 :=
  match stream.values[tile]? with
  | some value => .ok value
  | none => .error (stream.missing tile)

def set (stream : TileStream) (tile : Nat) (value : Int) : Except Error TileStream :=
  if tile < stream.values.length then
    .ok { stream with values := stream.values.set tile (stream.kind.clamp value) }
  else .error (stream.missing tile)

def increment (stream : TileStream) (tile : Nat) (amount : Int) : Except Error TileStream := do
  let value ← stream.get tile
  stream.set tile (value.toInt + amount)

-- Adds to each value, from the one of `tile` on, the bytes of its tile between `address` and `stop`.
-- The tile that was wanted after the last value, if any, is returned beside the values.
def spread (kind : ValueKind) (tiling : Tiling) (stop : Nat) :
    Nat → Nat → List Int32 → List Int32 × Option Nat
  | tile, address, [] => ([], if address < stop then some tile else none)
  | tile, address, value :: values =>
    if address < stop then
      let upTo := min (tiling.tileEnd tile) stop
      let rest := spread kind tiling stop (tile + 1) upTo values
      (kind.clamp (value.toInt + signedBytes (upTo - address)) :: rest.1, rest.2)
    else (value :: values, none)

def distribute (stream : TileStream) (tiling : Tiling) (address size : UInt64) :
    Except Error Unit × TileStream :=
  match tiling.indexOf? address.toNat with
  | none =>
    (.error (stream.missing ((address.toNat - tiling.start) / tiling.blockSize)), stream)
  | some first =>
    let stop := min (address.toNat + size.toNat) tiling.stop
    let spread := spread stream.kind tiling stop first address.toNat (stream.values.drop first)
    let changed := { stream with values := stream.values.take first ++ spread.1 }
    match spread.2 with
    | none => (.ok (), changed)
    | some tile => (.error (stream.missing tile), changed)

def reset (stream : TileStream) : TileStream := make stream.descriptor stream.values.length

def resize (stream : TileStream) (tiles : Nat) : TileStream := make stream.descriptor tiles

def total (stream : TileStream) : Int :=
  stream.values.foldr (fun value sum => value.toInt + sum) 0

def summary (stream : TileStream) : List Int32 :=
  let total := ValueKind.int.clamp stream.total
  match stream.descriptor.presentation with
  | .percent =>
    [total, ValueKind.int.clamp (stream.descriptor.maxValue.toInt * stream.values.length)]
  | _ => [total]

inductive Call where
  | set (tile : Nat) (value : Int)
  | increment (tile : Nat) (amount : Int)
  | distribute (tiling : Tiling) (address size : UInt64)
  | reset
  | resize (tiles : Nat)

def perform (stream : TileStream) : Call → Except Error Unit × TileStream
  | .set tile value => settle stream (stream.set tile value)
  | .increment tile amount => settle stream (stream.increment tile amount)
  | .distribute tiling address size => stream.distribute tiling address size
  | .reset => (.ok (), stream.reset)
  | .resize tiles => (.ok (), stream.resize tiles)
where
  settle (old : TileStream) : Except Error TileStream → Except Error Unit × TileStream
    | .ok changed => (.ok (), changed)
    | .error error => (.error error, old)

theorem spread_length (kind : ValueKind) (tiling : Tiling) (stop tile address : Nat)
    (values : List Int32) : (spread kind tiling stop tile address values).1.length = values.length := by
  induction values generalizing tile address with
  | nil => rfl
  | cons value values ih =>
    unfold spread
    split
    · simp [ih]
    · rfl

theorem distribute_length (stream : TileStream) (tiling : Tiling) (address size : UInt64) :
    (stream.distribute tiling address size).2.values.length = stream.values.length := by
  unfold distribute
  split
  · rfl
  · dsimp only
    split <;> simp only [List.length_append, spread_length, List.length_take, List.length_drop] <;>
      omega

end TileStream

end HeapScope
