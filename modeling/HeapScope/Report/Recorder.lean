import HeapScope.Frame.Builder
import HeapScope.Report.Reporter
import HeapScope.Report.Sink
import HeapScope.Table

namespace HeapScope

structure Recorder (σ : Type) where
  sink : σ
  frame : FrameBuilder
  current : Option SpaceId
  -- The spaces whose tile names have reached the sink.
  named : List SpaceId
  namesInFrame : Bool
  frameLimit : Nat
  counts : Table EventId Nat
  compensation : Duration
  timer : Option Duration

namespace Recorder

def defaultFrameLimit : Nat := 16 * 1024 * 1024

def largestCount : Nat := 2 ^ 32 - 1

variable {σ : Type}

def ofSink (sink : σ) : Recorder σ where
  sink := sink
  frame := .empty
  current := none
  named := []
  namesInFrame := false
  frameLimit := defaultFrameLimit
  counts := .empty
  compensation := .zero
  timer := none

def eventCount (recorder : Recorder σ) (event : EventId) : Nat :=
  (recorder.counts.get? event).getD 0

def addCompensation (recorder : Recorder σ) (length : Duration) : Recorder σ :=
  { recorder with compensation := recorder.compensation.add length }

def discard (recorder : Recorder σ) : Recorder σ :=
  { recorder with current := none, namesInFrame := false, frame := .empty }

def checkOpen (recorder : Recorder σ) (space : SpaceId) : Except Error Unit :=
  match recorder.current with
  | some current => if current = space then .ok () else .error (.spaceMismatch current space)
  | none => .error (.noOpenSpace space)

-- Closes the frame and writes it, unless its payload is over the limit: then it is dropped.
def flushFrame [Sink σ] (recorder : Recorder σ) : Except Error Unit × Recorder σ :=
  match recorder.frame.finish with
  | .error error => (.error error, recorder)
  | .ok (bytes, next) =>
    let recorder := { recorder with frame := next }
    let length := bytes.length - FrameBuilder.headerLength
    if recorder.frameLimit < length then
      (.error (.frameTooLarge length recorder.frameLimit), recorder)
    else
      match Sink.writeAll recorder.sink bytes with
      | (.error cause, sink) => (.error (.transport cause), { recorder with sink })
      | (.ok (), sink) =>
        match Sink.flush sink with
        | (.error cause, sink) => (.error (.transport cause), { recorder with sink })
        | (.ok (), sink) => (.ok (), { recorder with sink })

def write (recorder : Recorder σ) (changed : Except Error FrameBuilder) :
    Except Error Unit × Recorder σ :=
  match changed with
  | .error error => (.error error, recorder)
  | .ok frame => (.ok (), { recorder with frame })

def writeFor (recorder : Recorder σ) (space : SpaceId) (changed : Except Error FrameBuilder) :
    Except Error Unit × Recorder σ :=
  match recorder.checkOpen space with
  | .error error => (.error error, recorder)
  | .ok () => recorder.write changed

def beginSpace (recorder : Recorder σ) (event : EventId) (space : SpaceId) (tileCount : UInt32) :
    Except Error Unit × Recorder σ :=
  match recorder.current with
  | some current => (.error (.spaceAlreadyOpen current space), recorder)
  | none =>
    match recorder.frame.append (.spaceBegin space event tileCount) with
    | .error error => (.error error, recorder)
    | .ok frame => (.ok (), { recorder with frame, current := some space, namesInFrame := false })

def writeTileNames (recorder : Recorder σ) (space : SpaceId) (names : List String) :
    Except Error Unit × Recorder σ :=
  match recorder.writeFor space (recorder.frame.append (.tileNames space names)) with
  | (.ok (), recorder) => (.ok (), { recorder with namesInFrame := true })
  | failed => failed

def endSpace [Sink σ] (recorder : Recorder σ) (space : SpaceId) :
    Except Error Unit × Recorder σ :=
  match recorder.writeFor space (recorder.frame.append (.spaceEnd space)) with
  | (.error error, recorder) => (.error error, recorder)
  | (.ok (), recorder) =>
    let withNames := recorder.namesInFrame
    match flushFrame { recorder with current := none, namesInFrame := false } with
    | (.error error, recorder) => (.error error, recorder)
    | (.ok (), recorder) =>
      (.ok (), if withNames then { recorder with named := space :: recorder.named } else recorder)

def safepoint [Sink σ] (recorder : Recorder σ) (event : EventId) :
    Except Error Unit × Recorder σ :=
  match recorder.current with
  | some current => (.error (.safepointInsideSpace event current), recorder)
  | none =>
    let count := min (recorder.eventCount event + 1) largestCount
    let recorder := { recorder with counts := recorder.counts.insert event count }
    let command := .safepoint event (UInt32.ofNat count) recorder.compensation
    match recorder.write (recorder.frame.append command) with
    | (.error error, recorder) => (.error error, recorder)
    | (.ok (), recorder) => recorder.flushFrame

-- A timer that is running goes on.
def startTimer (recorder : Recorder σ) (now : Duration) : Recorder σ :=
  { recorder with timer := some (recorder.timer.getD now) }

def stopTimer (recorder : Recorder σ) (now : Duration) : Recorder σ :=
  match recorder.timer with
  | none => recorder
  | some started => addCompensation { recorder with timer := none } (started.between now)

def sendShutdown [Sink σ] (recorder : Recorder σ) : Except Error Unit × Recorder σ :=
  let recorder := recorder.discard
  match recorder.write (recorder.frame.append .shutdown) with
  | (.error error, recorder) => (.error error, recorder)
  | (.ok (), recorder) => recorder.flushFrame

def withHello [Sink σ] (sink : σ) (info : ServerInfo) : Except Error Unit × Recorder σ :=
  let recorder := ofSink sink
  match recorder.write (recorder.frame.append (.hello info)) with
  | (.error error, recorder) => (.error error, recorder)
  | (.ok (), recorder) => recorder.flushFrame

def needsTileNames (recorder : Recorder σ) (space : SpaceId) : Bool :=
  !recorder.named.contains space

def perform [Sink σ] (recorder : Recorder σ) : ReportCall → Except Error Unit × Recorder σ
  | .beginSpace event space tileCount => recorder.beginSpace event space tileCount
  | .tileNames space names => recorder.writeTileNames space names
  | .streamData space stream kind values =>
    recorder.writeFor space (recorder.frame.append (.streamData space stream kind values))
  | .control space length =>
    recorder.writeFor space (recorder.frame.beginControl space length)
  | .putControl flags => recorder.write (recorder.frame.putControl flags)
  | .summary space stream values =>
    recorder.writeFor space (recorder.frame.append (.summary space stream values))
  | .spaceInfo space info =>
    recorder.writeFor space (recorder.frame.append (.spaceInfo space info))
  | .endSpace space => recorder.endSpace space
  | .safepoint event => recorder.safepoint event
  | .startTimer now => (.ok (), recorder.startTimer now)
  | .stopTimer now => (.ok (), recorder.stopTimer now)

inductive Action where
  | report (call : ReportCall)
  | discard
  | shutdown
  | addCompensation (length : Duration)
deriving DecidableEq, Repr

def act [Sink σ] (recorder : Recorder σ) : Action → Except Error Unit × Recorder σ
  | .report call => recorder.perform call
  | .discard => (.ok (), recorder.discard)
  | .shutdown => recorder.sendShutdown
  | .addCompensation length => (.ok (), recorder.addCompensation length)

def run [Sink σ] (recorder : Recorder σ) (actions : List Action) : Recorder σ :=
  actions.foldl (fun recorder action => (recorder.act action).2) recorder

end Recorder

instance [Sink σ] : Reporter (Recorder σ) where
  isConnected _ _ := true
  needsTileNames := Recorder.needsTileNames
  perform := Recorder.perform

end HeapScope
