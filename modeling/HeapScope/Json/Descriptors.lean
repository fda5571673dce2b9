import HeapScope.Descriptor
import HeapScope.Json.Shape
import HeapScope.TileFlags

namespace HeapScope

namespace Json

def kinds : List (String × ValueKind) := [("Byte", .byte), ("Short", .short), ("Int", .int)]

def presentations : List (String × Presentation) :=
  [("Plain", .plain), ("Plus", .plus), ("MaxVar", .maxVar), ("Percent", .percent), ("Enum", .enum)]

def paintStyles : List (String × PaintStyle) := [("Plain", .plain), ("Zero", .zero)]

end Json

open Json

def SpaceId.toJson (space : SpaceId) : Json := ofByte space.number

def SpaceId.ofJson? (json : Json) : Option SpaceId := json.byte?.map SpaceId.mk

def StreamId.toJson (stream : StreamId) : Json := ofByte stream.number

def StreamId.ofJson? (json : Json) : Option StreamId := json.byte?.map StreamId.mk

def EventId.toJson (event : EventId) : Json := ofNat event.index

def EventId.ofJson? (json : Json) : Option EventId := json.word16?.map EventId.mk

def TileFlags.toJson (flags : TileFlags) : Json := Json.ofByte flags.bits

def TileFlags.ofJson? (json : Json) : Option TileFlags := json.byte?.map TileFlags.mk

def ValueKind.toJson : ValueKind → Json := choiceText kinds

def ValueKind.ofJson? : Json → Option ValueKind := choice? kinds

def Presentation.toJson : Presentation → Json := choiceText presentations

def Presentation.ofJson? : Json → Option Presentation := choice? presentations

def PaintStyle.toJson : PaintStyle → Json := choiceText paintStyles

def PaintStyle.ofJson? : Json → Option PaintStyle := choice? paintStyles

def Color.toJson (color : Color) : Json :=
  .object [("r", ofByte color.red), ("g", ofByte color.green), ("b", ofByte color.blue)]

def Color.ofJson? (json : Json) : Option Color := do
  let fields ← json.record? ["r", "g", "b"]
  let red ← field? fields "r" byte?
  let green ← field? fields "g" byte?
  let blue ← field? fields "b" byte?
  return { red, green, blue }

def StreamDescriptor.toJson (stream : StreamDescriptor) : Json :=
  .object [
    ("id", stream.id.toJson),
    ("name", .text stream.name),
    ("kind", stream.kind.toJson),
    ("min_value", ofInt32 stream.minValue),
    ("max_value", ofInt32 stream.maxValue),
    ("zero_value", ofInt32 stream.zeroValue),
    ("default_value", ofInt32 stream.defaultValue),
    ("prefix", .text stream.labelBefore),
    ("suffix", .text stream.labelAfter),
    ("presentation", stream.presentation.toJson),
    ("paint_style", stream.paintStyle.toJson),
    ("max_stream", ofOption StreamId.toJson stream.maxStream),
    ("color", stream.color.toJson),
    ("summary", .bool stream.summary)]

def StreamDescriptor.ofJson? (json : Json) : Option StreamDescriptor := do
  let fields ← json.record? ["id", "name", "kind", "min_value", "max_value", "zero_value",
    "default_value", "prefix", "suffix", "presentation", "paint_style", "max_stream", "color",
    "summary"]
  let id ← field? fields "id" StreamId.ofJson?
  let name ← field? fields "name" text?
  let kind ← field? fields "kind" ValueKind.ofJson?
  let minValue ← field? fields "min_value" int32?
  let maxValue ← field? fields "max_value" int32?
  let zeroValue ← field? fields "zero_value" int32?
  let defaultValue ← field? fields "default_value" int32?
  let labelBefore ← field? fields "prefix" text?
  let labelAfter ← field? fields "suffix" text?
  let presentation ← field? fields "presentation" Presentation.ofJson?
  let paintStyle ← field? fields "paint_style" PaintStyle.ofJson?
  let maxStream ← optionalField? fields "max_stream" StreamId.ofJson?
  let color ← field? fields "color" Color.ofJson?
  let summary ← field? fields "summary" bool?
  return {
    id, name, kind, minValue, maxValue, zeroValue, defaultValue, labelBefore, labelAfter,
    presentation, paintStyle, maxStream, color, summary }

def SpaceDescriptor.toJson (space : SpaceDescriptor) : Json :=
  .object [
    ("id", space.id.toJson),
    ("name", .text space.name),
    ("driver_name", .text space.driverName),
    ("title", .text space.title),
    ("block_info", .text space.blockInfo),
    ("tile_count", ofNat space.tileCount.toNat),
    ("unused_label", .text space.unusedLabel),
    ("main_space", .bool space.mainSpace),
    ("streams", ofList StreamDescriptor.toJson space.streams)]

def SpaceDescriptor.ofJson? (json : Json) : Option SpaceDescriptor := do
  let fields ← json.record? ["id", "name", "driver_name", "title", "block_info", "tile_count",
    "unused_label", "main_space", "streams"]
  let id ← field? fields "id" SpaceId.ofJson?
  let name ← field? fields "name" text?
  let driverName ← field? fields "driver_name" text?
  let title ← field? fields "title" text?
  let blockInfo ← field? fields "block_info" text?
  let tileCount ← field? fields "tile_count" word32?
  let unusedLabel ← field? fields "unused_label" text?
  let mainSpace ← field? fields "main_space" bool?
  let streams ← field? fields "streams" (list? StreamDescriptor.ofJson?)
  return {
    id, name, driverName, title, blockInfo, tileCount, unusedLabel, mainSpace, streams }

def ServerInfo.toJson (info : ServerInfo) : Json :=
  .object [
    ("name", .text info.name),
    ("version", .text info.version),
    ("general_info", .text info.generalInfo),
    ("events", ofList .text info.events),
    ("spaces", ofList SpaceDescriptor.toJson info.spaces)]

def ServerInfo.ofJson? (json : Json) : Option ServerInfo := do
  let fields ← json.record? ["name", "version", "general_info", "events", "spaces"]
  let name ← field? fields "name" text?
  let version ← field? fields "version" text?
  let generalInfo ← field? fields "general_info" text?
  let events ← field? fields "events" (list? text?)
  let spaces ← field? fields "spaces" (list? SpaceDescriptor.ofJson?)
  return { name, version, generalInfo, events, spaces }

end HeapScope
