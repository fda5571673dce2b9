import HeapScope.Json.Shape
import HeapScope.Settings

namespace HeapScope.Settings

open Json

def fieldNames : List String :=
  ["enabled", "serverName", "bindAddress", "port", "waitForClient", "generalInfo", "maxFrameLen",
    "verbose"]

def toJson (settings : Settings) : Json :=
  .object [("enabled", .bool settings.enabled), ("serverName", .text settings.serverName),
    ("bindAddress", .text settings.bindAddress), ("port", ofNat settings.port.toNat),
    ("waitForClient", .bool settings.waitForClient), ("generalInfo", .text settings.generalInfo),
    ("maxFrameLen", ofNat settings.frameLimit), ("verbose", .bool settings.verbose)]

def ofJson? (json : Json) : Option Settings := do
  let fields ← json.record? fieldNames
  let enabled ← fieldOr? fields "enabled" bool? default.enabled
  let serverName ← fieldOr? fields "serverName" text? default.serverName
  let bindAddress ← fieldOr? fields "bindAddress" text? default.bindAddress
  let port ← fieldOr? fields "port" word16? default.port
  let waitForClient ← fieldOr? fields "waitForClient" bool? default.waitForClient
  let generalInfo ← fieldOr? fields "generalInfo" text? default.generalInfo
  let frameLimit ← fieldOr? fields "maxFrameLen" (natBelow? (2 ^ 64)) default.frameLimit
  let verbose ← fieldOr? fields "verbose" bool? default.verbose
  return { enabled, serverName, bindAddress, port, waitForClient, generalInfo, frameLimit, verbose }

end HeapScope.Settings
