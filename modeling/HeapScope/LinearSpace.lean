import HeapScope.TileFlags
import HeapScope.TileStream

namespace HeapScope

structure LinearSpace where
  descriptor : SpaceDescriptor
  tiling : Tiling
  used : TileStream
  objects : TileStream
  live : TileStream
  dead : TileStream
  control : List TileFlags
  cursor : Option UInt64
  info : String
  namesPending : Bool
deriving DecidableEq, Repr

namespace LinearSpace

def usedStream (blockSize : Nat) : StreamDescriptor :=
  { StreamDescriptor.ofKind ⟨0⟩ "Used Space" .int with
    maxValue := ValueKind.int.clamp (TileStream.signedBytes blockSize)
    labelBefore := "Used: "
    labelAfter := " bytes"
    presentation := .percent
    color := .pureRed }

def objectsStream : StreamDescriptor :=
  { StreamDescriptor.ofKind ⟨1⟩ "Objects" .short with
    labelBefore := "Objects: ", color := .pureBlue }

def liveStream : StreamDescriptor :=
  { StreamDescriptor.ofKind ⟨2⟩ "Live Objects" .short with
    labelBefore := "Live: ", color := .leafGreen }

def deadStream : StreamDescriptor :=
  { StreamDescriptor.ofKind ⟨3⟩ "Dead Objects" .short with
    labelBefore := "Dead: ", color := .orange }

def titleOf (name : String) (tiling : Tiling) : String :=
  name ++ ": " ++ Hex.text tiling.start ++ "-" ++ Hex.text tiling.stop

def checkTileCount (tiling : Tiling) : Except Error UInt32 :=
  if tiling.tileCount < 2 ^ 32 then .ok (UInt32.ofNat tiling.tileCount)
  else .error (.tooManyItems "tiles" tiling.tileCount)

def make (id : SpaceId) (name : String) (start stop blockSize : UInt64) :
    Except Error LinearSpace := do
  let tiling ← Tiling.make start stop blockSize.toNat
  let tileCount ← checkTileCount tiling
  let tiles := tiling.tileCount
  return {
    descriptor := {
      id, name, tileCount
      driverName := "LinearSpaceDriver"
      title := titleOf name tiling
      blockInfo := s!"Block Size: {tiling.blockSize} bytes"
      unusedLabel := "Unused"
      mainSpace := false
      streams := [usedStream tiling.blockSize, objectsStream, liveStream, deadStream] }
    tiling
    used := .make (usedStream tiling.blockSize) tiles
    objects := .make objectsStream tiles
    live := .make liveStream tiles
    dead := .make deadStream tiles
    control := List.replicate tiles .used
    cursor := none
    info := ""
    namesPending := true }

def withMainSpace (space : LinearSpace) (mainSpace : Bool) : LinearSpace :=
  { space with descriptor := { space.descriptor with mainSpace } }

def id (space : LinearSpace) : SpaceId := space.descriptor.id

def streams (space : LinearSpace) : List TileStream :=
  [space.used, space.objects, space.live, space.dead]

def stream? (space : LinearSpace) (id : StreamId) : Option TileStream :=
  space.streams.find? (·.descriptor.id = id)

def resize (space : LinearSpace) (start stop : UInt64) : Except Error LinearSpace := do
  let tiling ← Tiling.make start stop space.tiling.blockSize
  let tileCount ← checkTileCount tiling
  let tiles := tiling.tileCount
  return { space with
    descriptor := { space.descriptor with
      tileCount, title := titleOf space.descriptor.name tiling }
    tiling
    used := space.used.resize tiles
    objects := space.objects.resize tiles
    live := space.live.resize tiles
    dead := space.dead.resize tiles
    control := List.replicate tiles .used
    cursor := none
    namesPending := true }

def count (space : LinearSpace) (tile : Nat) (live : Bool) : Except Error Unit × LinearSpace :=
  match space.objects.increment tile 1 with
  | .error error => (.error error, space)
  | .ok objects =>
    let space := { space with objects }
    if live then
      match space.live.increment tile 1 with
      | .error error => (.error error, space)
      | .ok live => (.ok (), { space with live })
    else
      match space.dead.increment tile 1 with
      | .error error => (.error error, space)
      | .ok dead => (.ok (), { space with dead })

def scan (space : LinearSpace) (address size : UInt64) (live : Bool) :
    Except Error Unit × LinearSpace :=
  match space.tiling.indexOf? address.toNat with
  | none => (.error (.addressOutOfRange space.id address.toNat), space)
  | some tile =>
    match space.used.distribute space.tiling address size with
    | (.error error, used) => (.error error, { space with used })
    | (.ok (), used) => count { space with used } tile live

def flagsBelow (tiling : Tiling) (cursor : Nat) (index : Nat) (flags : TileFlags) : TileFlags :=
  if cursor ≤ tiling.tileStart index then (flags.remove .used).insert .unused
  else (flags.remove .unused).insert .used

def setCursor (space : LinearSpace) (address : UInt64) : Except Error LinearSpace :=
  if address.toNat < space.tiling.start ∨ space.tiling.stop < address.toNat then
    .error (.addressOutOfRange space.id address.toNat)
  else .ok { space with
    control := space.control.mapIdx (flagsBelow space.tiling address.toNat)
    cursor := some address }

def setSeparator (space : LinearSpace) (tile : Nat) : Except Error LinearSpace := do
  space.tiling.checkTile tile
  return { space with control := space.control.modify tile (·.insert .separator) }

def setInfo (space : LinearSpace) (info : String) : LinearSpace := { space with info }

-- Starts over with the counts and flags. The info stays, and so do pending names.
def reset (space : LinearSpace) : LinearSpace :=
  { space with
    used := space.used.reset
    objects := space.objects.reset
    live := space.live.reset
    dead := space.dead.reset
    control := List.replicate space.control.length .used
    cursor := none }

def infoText (space : LinearSpace) : String :=
  if space.info.isEmpty then
    let used := (ValueKind.int.clamp space.used.total).toInt
    "Start: " ++ Hex.text space.tiling.start ++ "\nEnd: " ++ Hex.text space.tiling.stop
      ++ s!"\nUsed: {used} of {space.tiling.length} bytes"
  else space.info

inductive Call where
  | scan (address size : UInt64) (live : Bool)
  | resize (start stop : UInt64)
  | setCursor (address : UInt64)
  | setSeparator (tile : Nat)
  | setInfo (info : String)
  | reset
deriving DecidableEq, Repr

def perform (space : LinearSpace) : Call → Except Error Unit × LinearSpace
  | .scan address size live => space.scan address size live
  | .resize start stop => settle space (space.resize start stop)
  | .setCursor address => settle space (space.setCursor address)
  | .setSeparator tile => settle space (space.setSeparator tile)
  | .setInfo info => (.ok (), space.setInfo info)
  | .reset => (.ok (), space.reset)
where
  settle (old : LinearSpace) : Except Error LinearSpace → Except Error Unit × LinearSpace
    | .ok changed => (.ok (), changed)
    | .error error => (.error error, old)

def performEach (space : LinearSpace) : List Call → Except Error Unit × LinearSpace
  | [] => (.ok (), space)
  | call :: calls =>
    match space.perform call with
    | (.error error, space) => (.error error, space)
    | (.ok (), space) => performEach space calls

end LinearSpace

end HeapScope
