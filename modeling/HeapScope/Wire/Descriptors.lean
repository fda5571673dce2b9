import HeapScope.Descriptor
import HeapScope.Wire.Reader
import HeapScope.Wire.Writer

namespace HeapScope.Wire

def writeStream (stream : StreamDescriptor) : Except Error Bytes := do
  let name ← writeText stream.name
  let labelBefore ← writeText stream.labelBefore
  let labelAfter ← writeText stream.labelAfter
  return [stream.id.number] ++ name ++ [stream.kind.code]
    ++ writeInt stream.minValue ++ writeInt stream.maxValue
    ++ writeInt stream.zeroValue ++ writeInt stream.defaultValue
    ++ labelBefore ++ labelAfter
    ++ [stream.presentation.code, stream.paintStyle.code]
    ++ [(stream.maxStream.map (·.number)).getD noStream]
    ++ [stream.color.red, stream.color.green, stream.color.blue]
    ++ writeBool stream.summary

def writeSpace (space : SpaceDescriptor) : Except Error Bytes := do
  let name ← writeText space.name
  let driverName ← writeText space.driverName
  let title ← writeText space.title
  let blockInfo ← writeText space.blockInfo
  let unusedLabel ← writeText space.unusedLabel
  let count ← writeCount 1 "streams" space.streams.length
  let streams ← writeEach writeStream space.streams
  return [space.id.number] ++ name ++ driverName ++ title ++ blockInfo
    ++ Bytes.bigEndian 4 space.tileCount.toNat ++ unusedLabel ++ writeBool space.mainSpace
    ++ count ++ streams

def writeServer (info : ServerInfo) : Except Error Bytes := do
  let name ← writeText info.name
  let version ← writeText info.version
  let generalInfo ← writeText info.generalInfo
  let eventCount ← writeCount 2 "events" info.events.length
  let events ← writeEach writeText info.events
  let spaceCount ← writeCount 1 "spaces" info.spaces.length
  let spaces ← writeEach writeSpace info.spaces
  return [protocolVersion] ++ name ++ version ++ generalInfo ++ eventCount ++ events
    ++ spaceCount ++ spaces

namespace Reader

def spaceId : Reader SpaceId := return ⟨← byte "space id"⟩

def streamId : Reader StreamId := return ⟨← byte "stream id"⟩

def eventId : Reader EventId := return ⟨UInt16.ofNat (← number 2 "event id")⟩

def count32 (what : String) : Reader UInt32 := return UInt32.ofNat (← number 4 what)

def int (what : String) : Reader Int32 := return ValueKind.int.decode (← number 4 what)

def kind : Reader ValueKind := do
  let code ← byte "stream kind"
  match ValueKind.ofCode? code with
  | some kind => return kind
  | none => fail (.unknownKind code)

def presentation : Reader Presentation := do
  let code ← byte "presentation"
  match Presentation.ofCode? code with
  | some presentation => return presentation
  | none => fail (.unknownPresentation code)

def paintStyle : Reader PaintStyle := do
  let code ← byte "paint style"
  match PaintStyle.ofCode? code with
  | some style => return style
  | none => fail (.unknownPaintStyle code)

def maxStream : Reader (Option StreamId) := do
  let code ← byte "max stream"
  return if code = noStream then none else some ⟨code⟩

def color : Reader Color := do
  let n ← number 3 "color"
  return ⟨UInt8.ofNat (n / 65536), UInt8.ofNat (n / 256), UInt8.ofNat n⟩

def stream : Reader StreamDescriptor := do
  let id ← streamId
  let name ← text "stream name"
  let kind ← kind
  let minValue ← int "min value"
  let maxValue ← int "max value"
  let zeroValue ← int "zero value"
  let defaultValue ← int "default value"
  let labelBefore ← text "prefix"
  let labelAfter ← text "suffix"
  let presentation ← presentation
  let paintStyle ← paintStyle
  let maxStream ← maxStream
  let color ← color
  let summary ← bool "summary flag"
  return {
    id, name, kind, minValue, maxValue, zeroValue, defaultValue, labelBefore, labelAfter,
    presentation, paintStyle, maxStream, color, summary }

def space : Reader SpaceDescriptor := do
  let id ← spaceId
  let name ← text "space name"
  let driverName ← text "driver name"
  let title ← text "title"
  let blockInfo ← text "block info"
  let tileCount ← count32 "tile count"
  let unusedLabel ← text "unused label"
  let flags ← byte "space flags"
  let streamCount ← byte "stream count"
  let streams ← many stream streamCount.toNat
  return {
    id, name, driverName, title, blockInfo, tileCount, unusedLabel, streams,
    mainSpace := flags &&& 1 = 1 }

def server : Reader ServerInfo := do
  let version ← byte "protocol version"
  if version ≠ protocolVersion then fail (.wrongVersion version)
  else do
    let name ← text "server name"
    let version ← text "server version"
    let generalInfo ← text "general info"
    let eventCount ← number 2 "event count"
    let events ← many (text "event name") eventCount
    let spaceCount ← byte "space count"
    let spaces ← many space spaceCount.toNat
    return { name, version, generalInfo, events, spaces }

theorem forward_space_id : Forward spaceId :=
  forward_bind (forward_byte _) fun _ => forward_pure _

theorem forward_stream_id : Forward streamId :=
  forward_bind (forward_byte _) fun _ => forward_pure _

theorem forward_event_id : Forward eventId :=
  forward_bind (forward_number _ _) fun _ => forward_pure _

theorem forward_count32 (what : String) : Forward (count32 what) :=
  forward_bind (forward_number _ _) fun _ => forward_pure _

theorem forward_int (what : String) : Forward (int what) :=
  forward_bind (forward_number _ _) fun _ => forward_pure _

theorem forward_kind : Forward kind := by
  refine forward_bind (forward_byte _) fun code => ?_
  split
  · exact forward_pure _
  · exact forward_fail _

theorem forward_presentation : Forward presentation := by
  refine forward_bind (forward_byte _) fun code => ?_
  split
  · exact forward_pure _
  · exact forward_fail _

theorem forward_paint_style : Forward paintStyle := by
  refine forward_bind (forward_byte _) fun code => ?_
  split
  · exact forward_pure _
  · exact forward_fail _

theorem forward_max_stream : Forward maxStream :=
  forward_bind (forward_byte _) fun _ => forward_pure _

theorem forward_color : Forward color :=
  forward_bind (forward_number _ _) fun _ => forward_pure _

theorem forward_stream : Forward stream :=
  forward_bind forward_stream_id fun _ =>
  forward_bind (forward_text _) fun _ =>
  forward_bind forward_kind fun _ =>
  forward_bind (forward_int _) fun _ =>
  forward_bind (forward_int _) fun _ =>
  forward_bind (forward_int _) fun _ =>
  forward_bind (forward_int _) fun _ =>
  forward_bind (forward_text _) fun _ =>
  forward_bind (forward_text _) fun _ =>
  forward_bind forward_presentation fun _ =>
  forward_bind forward_paint_style fun _ =>
  forward_bind forward_max_stream fun _ =>
  forward_bind forward_color fun _ =>
  forward_bind (forward_bool _) fun _ => forward_pure _

theorem forward_space : Forward space :=
  forward_bind forward_space_id fun _ =>
  forward_bind (forward_text _) fun _ =>
  forward_bind (forward_text _) fun _ =>
  forward_bind (forward_text _) fun _ =>
  forward_bind (forward_text _) fun _ =>
  forward_bind (forward_count32 _) fun _ =>
  forward_bind (forward_text _) fun _ =>
  forward_bind (forward_byte _) fun _ =>
  forward_bind (forward_byte _) fun _ =>
  forward_bind (forward_many forward_stream _) fun _ => forward_pure _

theorem forward_server : Forward server := by
  refine forward_bind (forward_byte _) fun version => ?_
  split
  · exact forward_fail _
  · exact
      forward_bind (forward_text _) fun _ =>
      forward_bind (forward_text _) fun _ =>
      forward_bind (forward_text _) fun _ =>
      forward_bind (forward_number _ _) fun _ =>
      forward_bind (forward_many (forward_text _) _) fun _ =>
      forward_bind (forward_byte _) fun _ =>
      forward_bind (forward_many forward_space _) fun _ => forward_pure _

end Reader

end HeapScope.Wire
