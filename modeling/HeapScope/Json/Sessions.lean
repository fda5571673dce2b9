import HeapScope.Json.Descriptors
import HeapScope.Session

namespace HeapScope

open Json

def streamsToJson (streams : Table StreamId (List Int32)) : Json :=
  .object (streams.entries.map fun entry =>
    (toString entry.1.number.toNat, ofList ofInt32 entry.2))

def SpaceSnapshot.toJson (report : SpaceSnapshot) : Json :=
  .object [
    ("space", report.space.toJson),
    ("event", report.event.toJson),
    ("tile_count", ofNat report.tileCount.toNat),
    ("tile_names", ofList .text report.tileNames),
    ("streams", streamsToJson report.streams),
    ("control", ofList TileFlags.toJson report.control),
    ("summaries", streamsToJson report.summaries),
    ("info", .text report.info)]

def SafepointRecord.toJson (record : SafepointRecord) : Json :=
  .object [
    ("event", record.event.toJson),
    ("count", ofNat record.count.toNat),
    ("compensation_us", ofNat record.microseconds)]

def Session.toJson (session : Session) : Json :=
  .object [
    ("info", ofOption ServerInfo.toJson session.info),
    ("spaces", .object (session.spaces.entries.map fun entry =>
      (toString entry.1.number.toNat, entry.2.toJson))),
    ("safepoints", ofList SafepointRecord.toJson session.safepoints),
    ("shut_down", .bool session.shutDown)]

end HeapScope
