import HeapScope.LinearSpace
import HeapScope.Report.Reporter

namespace HeapScope

inductive Interaction where
  | isConnected (event : EventId)
  | needsTileNames (space : SpaceId)
  | call (call : ReportCall)
deriving DecidableEq, Repr

structure Transmission (ρ : Type) where
  outcome : Except Error Unit
  transcript : List Interaction
  space : LinearSpace
  reporter : ρ

namespace LinearSpace

def reportCalls (space : LinearSpace) (withNames : Bool) : List ReportCall :=
  (if withNames then [.tileNames space.id space.tiling.tileLabels] else [])
    ++ space.streams.map
      (fun stream => .streamData space.id stream.descriptor.id stream.kind stream.values)
    ++ [.control space.id space.descriptor.tileCount]
    ++ space.control.map .putControl
    ++ (space.streams.filter (·.descriptor.summary)).map
      (fun stream => .summary space.id stream.descriptor.id stream.summary)
    ++ [.spaceInfo space.id space.infoText, .endSpace space.id]

variable {ρ : Type} [Reporter ρ]

def send (space : LinearSpace) (reporter : ρ) (event : EventId) : Transmission ρ :=
  let opening := .beginSpace event space.id space.descriptor.tileCount
  match Reporter.perform reporter opening with
  | (.error error, reporter) => ⟨.error error, [.call opening], space, reporter⟩
  | (.ok (), reporter) =>
    let question := if space.namesPending then [] else [.needsTileNames space.id]
    let withNames := space.namesPending || Reporter.needsTileNames reporter space.id
    let rest := performAll reporter (space.reportCalls withNames)
    let transcript := [.call opening] ++ question ++ rest.made.map .call
    match rest.outcome with
    | .error error => ⟨.error error, transcript, space, rest.reporter⟩
    | .ok () => ⟨.ok (), transcript, { space with namesPending := false }, rest.reporter⟩

def transmit (space : LinearSpace) (reporter : ρ) (event : EventId)
    (started stopped : Duration) : Transmission ρ :=
  if Reporter.isConnected reporter event then
    let start := .startTimer started
    let stop := .stopTimer stopped
    let sent := space.send (Reporter.perform reporter start).2 event
    { sent with
      transcript := [.isConnected event, .call start] ++ sent.transcript ++ [.call stop]
      reporter := (Reporter.perform sent.reporter stop).2 }
  else ⟨.ok (), [.isConnected event], space, reporter⟩

end LinearSpace

end HeapScope
