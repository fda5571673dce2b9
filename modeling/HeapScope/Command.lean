import HeapScope.Descriptor
import HeapScope.Duration
import HeapScope.TileFlags

namespace HeapScope

inductive Command where
  | hello (info : ServerInfo)
  | spaceDef (space : SpaceDescriptor)
  | spaceBegin (space : SpaceId) (event : EventId) (tileCount : UInt32)
  | tileNames (space : SpaceId) (names : List String)
  | streamData (space : SpaceId) (stream : StreamId) (kind : ValueKind) (values : List Int32)
  | control (space : SpaceId) (flags : List TileFlags)
  | summary (space : SpaceId) (stream : StreamId) (values : List Int32)
  | spaceInfo (space : SpaceId) (info : String)
  | spaceEnd (space : SpaceId)
  | safepoint (event : EventId) (count : UInt32) (compensation : Duration)
  | shutdown
  | play
  | pause
  | step
  | enableEvent (event : EventId) (enabled : Bool)
  | disconnect
deriving DecidableEq, Repr

namespace Command

def opcode : Command → UInt8
  | .hello .. => 0x01
  | .spaceDef .. => 0x02
  | .spaceBegin .. => 0x03
  | .tileNames .. => 0x04
  | .streamData .. => 0x05
  | .control .. => 0x06
  | .summary .. => 0x07
  | .spaceInfo .. => 0x08
  | .spaceEnd .. => 0x09
  | .safepoint .. => 0x0a
  | .shutdown => 0x0b
  | .play => 0x81
  | .pause => 0x82
  | .step => 0x83
  | .enableEvent .. => 0x84
  | .disconnect => 0x85

def fromClient : Command → Bool
  | .play | .pause | .step | .enableEvent .. | .disconnect => true
  | _ => false

theorem from_client_iff (command : Command) : command.fromClient = true ↔ 0x80 ≤ command.opcode := by
  cases command <;> simp [fromClient, opcode]

def clientText : Command → String
  | .play => "Play"
  | .pause => "Pause"
  | .step => "Step"
  | .enableEvent event enabled =>
    s!"EnableEvent \x7b event: EventId({event.index}), enabled: {enabled} \x7d"
  | .disconnect => "Disconnect"
  | _ => ""

end Command

end HeapScope
