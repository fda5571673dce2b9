import HeapScope.Command
import HeapScope.Json.Descriptors

namespace HeapScope

open Json

def Duration.toJson (length : Duration) : Json :=
  .object [("secs", ofNat length.seconds), ("nanos", ofNat length.subsecond)]

def Command.toJson : Command → Json
  | .hello info => .object [("Hello", info.toJson)]
  | .spaceDef space => .object [("SpaceDef", space.toJson)]
  | .spaceBegin space event tileCount =>
    .object [("SpaceBegin", .object [("space", space.toJson), ("event", event.toJson),
      ("tile_count", ofNat tileCount.toNat)])]
  | .tileNames space names =>
    .object [("TileNames", .object [("space", space.toJson), ("names", ofList .text names)])]
  | .streamData space stream kind values =>
    .object [("StreamData", .object [("space", space.toJson), ("stream", stream.toJson),
      ("kind", kind.toJson), ("values", ofList ofInt32 values)])]
  | .control space flags =>
    .object [("Control", .object [("space", space.toJson),
      ("flags", ofList TileFlags.toJson flags)])]
  | .summary space stream values =>
    .object [("Summary", .object [("space", space.toJson), ("stream", stream.toJson),
      ("values", ofList ofInt32 values)])]
  | .spaceInfo space info =>
    .object [("SpaceInfo", .object [("space", space.toJson), ("info", .text info)])]
  | .spaceEnd space => .object [("SpaceEnd", .object [("space", space.toJson)])]
  | .safepoint event count compensation =>
    .object [("Safepoint", .object [("event", event.toJson), ("count", ofNat count.toNat),
      ("compensation", compensation.toJson)])]
  | .shutdown => .text "Shutdown"
  | .play => .text "Play"
  | .pause => .text "Pause"
  | .step => .text "Step"
  | .enableEvent event enabled =>
    .object [("EnableEvent", .object [("event", event.toJson), ("enabled", .bool enabled)])]
  | .disconnect => .text "Disconnect"

def Duration.ofJson? (json : Json) : Option Duration := do
  let fields ← json.record? ["secs", "nanos"]
  let seconds ← field? fields "secs" (natBelow? (2 ^ 64))
  let nanoseconds ← field? fields "nanos" (natBelow? (2 ^ 32))
  return Duration.ofParts seconds nanoseconds

namespace Command

def signals : List (String × Command) :=
  [("Shutdown", .shutdown), ("Play", .play), ("Pause", .pause), ("Step", .step),
    ("Disconnect", .disconnect)]

def fieldNames : List String :=
  ["space", "event", "stream", "tile_count", "names", "kind", "values", "flags", "info", "count",
    "compensation", "enabled"]

def ofFields? (name : String) (fields : List (String × Json)) : Option Command := do
  let space := field? fields "space" SpaceId.ofJson?
  let stream := field? fields "stream" StreamId.ofJson?
  let event := field? fields "event" EventId.ofJson?
  let values := field? fields "values" (list? int32?)
  match name with
  | "SpaceBegin" => return .spaceBegin (← space) (← event) (← field? fields "tile_count" word32?)
  | "TileNames" => return .tileNames (← space) (← field? fields "names" (list? text?))
  | "StreamData" =>
    return .streamData (← space) (← stream) (← field? fields "kind" ValueKind.ofJson?) (← values)
  | "Control" => return .control (← space) (← field? fields "flags" (list? TileFlags.ofJson?))
  | "Summary" => return .summary (← space) (← stream) (← values)
  | "SpaceInfo" => return .spaceInfo (← space) (← field? fields "info" text?)
  | "SpaceEnd" => return .spaceEnd (← space)
  | "Safepoint" =>
    return .safepoint (← event) (← field? fields "count" word32?)
      (← field? fields "compensation" Duration.ofJson?)
  | "EnableEvent" => return .enableEvent (← event) (← field? fields "enabled" bool?)
  | _ => none

def ofJson? : Json → Option Command
  | .text name => signals.lookup name
  | .object [("Hello", info)] => (ServerInfo.ofJson? info).map .hello
  | .object [("SpaceDef", space)] => (SpaceDescriptor.ofJson? space).map .spaceDef
  | .object [(name, body)] => do ofFields? name (← body.record? fieldNames)
  | _ => none

end Command

end HeapScope
