import HeapScope.Frame.Builder

/- A frame filled in place. The fields of a command are put into the buffer one after another, each before
   it is known whether those behind it can be put; when one of them is refused, the buffer is cut back to
   where the command began. -/
namespace HeapScope

-- What is put into a buffer stays in it, also when something behind it is refused.
abbrev Filling := ExceptT Error (StateM Bytes)

namespace Filling

def put (bytes : Bytes) : Filling Unit := modify (· ++ bytes)

def putText (text : String) : Filling Unit :=
  if text.utf8ByteSize < 256 ^ 2 then do
    put (Bytes.bigEndian 2 text.utf8ByteSize)
    put (Utf8.encode text)
  else throw (.stringTooLong text.utf8ByteSize)

def putCount (width : Nat) (what : String) (count : Nat) : Filling Unit :=
  if count < 256 ^ width then put (Bytes.bigEndian width count)
  else throw (.tooManyItems what count)

def putValue (kind : ValueKind) (value : Int32) : Filling Unit :=
  if kind.holds value then put (kind.encode value) else throw (.valueOutOfRange value kind)

def putStream (stream : StreamDescriptor) : Filling Unit := do
  put [stream.id.number]
  putText stream.name
  put [stream.kind.code]
  put (Wire.writeInt stream.minValue)
  put (Wire.writeInt stream.maxValue)
  put (Wire.writeInt stream.zeroValue)
  put (Wire.writeInt stream.defaultValue)
  putText stream.labelBefore
  putText stream.labelAfter
  put [stream.presentation.code]
  put [stream.paintStyle.code]
  put [(stream.maxStream.map (·.number)).getD Wire.noStream]
  put [stream.color.red]
  put [stream.color.green]
  put [stream.color.blue]
  put (Wire.writeBool stream.summary)

def putSpace (space : SpaceDescriptor) : Filling Unit := do
  put [space.id.number]
  putText space.name
  putText space.driverName
  putText space.title
  putText space.blockInfo
  put (Bytes.bigEndian 4 space.tileCount.toNat)
  putText space.unusedLabel
  put (Wire.writeBool space.mainSpace)
  putCount 1 "streams" space.streams.length
  space.streams.forM putStream

def putServer (info : ServerInfo) : Filling Unit := do
  put [Wire.protocolVersion]
  putText info.name
  putText info.version
  putText info.generalInfo
  putCount 2 "events" info.events.length
  info.events.forM putText
  putCount 1 "spaces" info.spaces.length
  info.spaces.forM putSpace

def putFields : Command → Filling Unit
  | .hello info => putServer info
  | .spaceDef space => putSpace space
  | .spaceBegin space event tileCount => do
    put [space.number]
    put (Bytes.bigEndian 2 event.index)
    put (Bytes.bigEndian 4 tileCount.toNat)
  | .tileNames space names => do
    put [space.number]
    putCount 4 "tile names" names.length
    names.forM putText
  | .streamData space stream kind values => do
    put [space.number]
    put [stream.number]
    put [kind.code]
    putCount 4 "stream values" values.length
    values.forM (putValue kind)
  | .control space flags => do
    put [space.number]
    putCount 4 "control block" flags.length
    put (flags.map (·.bits))
  | .summary space stream values => do
    put [space.number]
    put [stream.number]
    putCount 4 "summary values" values.length
    values.forM fun value => put (Wire.writeInt value)
  | .spaceInfo space info => do
    put [space.number]
    putText info
  | .spaceEnd space => put [space.number]
  | .safepoint event count compensation => do
    put (Bytes.bigEndian 2 event.index)
    put (Bytes.bigEndian 4 count.toNat)
    put (Bytes.bigEndian 8 compensation.microseconds)
  | .enableEvent event enabled => do
    put (Bytes.bigEndian 2 event.index)
    put (Wire.writeBool enabled)
  | .shutdown | .play | .pause | .step | .disconnect => pure ()

end Filling

namespace FrameBuilder

def enter (builder : FrameBuilder) (opcode : UInt8) (fields : Filling Unit) :
    Except Error (Option Bytes) × FrameBuilder :=
  match builder.checkFilled with
  | .error error => (.error error, builder)
  | .ok () =>
    let mark := builder.payload.length
    match (fields.run.run (builder.payload ++ [opcode])).run with
    | (.ok (), buffer) => (.ok none, { builder with payload := buffer })
    | (.error error, buffer) => (.error error, { builder with payload := buffer.take mark })

-- The entries a control block still takes are counted in 32 bits, and the count wraps around below
-- zero.
def performInPlace (builder : FrameBuilder) : Call → Except Error (Option Bytes) × FrameBuilder
  | .append command => builder.enter command.opcode (Filling.putFields command)
  | .beginControl space length =>
    let header := do
      Filling.put [space.number]
      Filling.put (Bytes.bigEndian 4 length.toNat)
    match builder.enter (Command.control space []).opcode header with
    | (.ok none, next) =>
      if 0 < length.toNat then (.ok none, { next with openControl := some ⟨space, length.toNat⟩ })
      else (.ok none, next)
    | refused => refused
  | .putControl flags =>
    match builder.openControl with
    | none => (.error .noOpenControl, builder)
    | some block =>
      let left := UInt32.ofNat block.remaining - 1
      (.ok none, {
        payload := builder.payload ++ [flags.bits]
        openControl := if left = 0 then none else some { block with remaining := left.toNat } })
  | .reset => (.ok none, empty)
  | .finish =>
    match builder.checkFilled with
    | .error error => (.error error, builder)
    | .ok () =>
      let length := builder.payload.length
      if length < 256 ^ headerLength then
        (.ok (some (Bytes.bigEndian headerLength length ++ builder.payload)), empty)
      else (.error (.tooManyItems "frame bytes" length), builder)

end FrameBuilder

end HeapScope
