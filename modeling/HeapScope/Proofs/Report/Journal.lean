import HeapScope.Proofs.Frame.History
import HeapScope.Proofs.Report.Sinks
import HeapScope.Report.Recorder

namespace HeapScope

inductive Parcel where
  | shutdown
  | safepoint (event : EventId) (count : UInt32) (compensation : Duration)
  | report (event : EventId) (space : SpaceId) (tileCount : UInt32) (body : List Command)
deriving DecidableEq, Repr

def Parcel.commands : Parcel → List Command
  | .shutdown => [.shutdown]
  | .safepoint event count compensation => [.safepoint event count compensation]
  | .report event space tileCount body =>
    .spaceBegin space event tileCount :: (body ++ [.spaceEnd space])

def Command.TellsOf (space : SpaceId) : Command → Prop
  | .tileNames named _ => named = space
  | .streamData named _ _ _ => named = space
  | .control named _ => named = space
  | .summary named _ _ => named = space
  | .spaceInfo named _ => named = space
  | _ => False

def FrameBuilder.Call.TellsOf (space : SpaceId) : FrameBuilder.Call → Prop
  | .append command => command.TellsOf space
  | .beginControl named _ => named = space
  | .putControl _ => True
  | .reset | .finish => False

def ReportCall.write? : ReportCall → Option FrameBuilder.Call
  | .tileNames space names => some (.append (.tileNames space names))
  | .streamData space stream kind values => some (.append (.streamData space stream kind values))
  | .control space length => some (.beginControl space length)
  | .putControl flags => some (.putControl flags)
  | .summary space stream values => some (.append (.summary space stream values))
  | .spaceInfo space info => some (.append (.spaceInfo space info))
  | .beginSpace .. | .endSpace .. | .safepoint .. | .startTimer .. | .stopTimer .. => none

structure Draft where
  event : EventId
  space : SpaceId
  tileCount : UInt32
  calls : List FrameBuilder.Call

namespace Draft

def add (draft : Draft) (call : FrameBuilder.Call) : Draft :=
  { draft with calls := draft.calls ++ [call] }

def parcel (draft : Draft) : Parcel :=
  .report draft.event draft.space draft.tileCount (FrameBuilder.gather draft.calls)

end Draft

structure Journal where
  draft : Option Draft
  parcels : List Parcel
  transportFailed : Bool

namespace Journal

def blank : Journal := ⟨none, [], false⟩

def failedInTransport : Except Error Unit → Bool
  | .ok () => false
  | .error error => error.isTransport

-- A complete frame was given to the sink, which may have failed on it.
def handedOver : Except Error Unit → Bool
  | .ok () => true
  | .error error => error.isTransport

def dropped : Except Error Unit → Bool
  | .error (.frameTooLarge _ _) => true
  | .error (.tooManyItems _ _) => true
  | _ => false

def draftAfter (draft : Option Draft) (action : Recorder.Action) (outcome : Except Error Unit) :
    Option Draft :=
  match action with
  | .report (.beginSpace event space tileCount) =>
    match outcome with
    | .ok () => some ⟨event, space, tileCount, []⟩
    | .error _ => draft
  | .report (.endSpace _) => if handedOver outcome || dropped outcome then none else draft
  | .report call =>
    match outcome, call.write? with
    | .ok (), some write => draft.map (·.add write)
    | _, _ => draft
  | .discard | .shutdown => none
  | .addCompensation _ => draft

variable {σ : Type}

def parcel? (draft : Option Draft) (recorder : Recorder σ) : Recorder.Action → Option Parcel
  | .report (.endSpace _) => draft.map Draft.parcel
  | .report (.safepoint event) =>
    let count := min (recorder.eventCount event + 1) Recorder.largestCount
    some (.safepoint event (UInt32.ofNat count) recorder.compensation)
  | .shutdown => some .shutdown
  | _ => none

def record (journal : Journal) (recorder : Recorder σ) (action : Recorder.Action)
    (outcome : Except Error Unit) : Journal where
  draft := draftAfter journal.draft action outcome
  parcels := journal.parcels ++
    (if handedOver outcome then parcel? journal.draft recorder action else none).toList
  transportFailed := journal.transportFailed || failedInTransport outcome

def after [Sink σ] (journal : Journal) (recorder : Recorder σ) (action : Recorder.Action) : Journal :=
  journal.record recorder action (recorder.act action).1

theorem after_outcome [Sink σ] {recorder : Recorder σ} (action : Recorder.Action)
    {outcome : Except Error Unit} (answered : (recorder.act action).1 = outcome) (journal : Journal) :
    journal.after recorder action = journal.record recorder action outcome := by
  rw [after, answered]

end Journal

structure Chronicle (σ : Type) where
  recorder : Recorder σ
  journal : Journal

namespace Chronicle

variable {σ : Type} [Sink σ]

def after (chronicle : Chronicle σ) (action : Recorder.Action) : Chronicle σ where
  recorder := (chronicle.recorder.act action).2
  journal := chronicle.journal.after chronicle.recorder action

def ofActions (recorder : Recorder σ) (actions : List Recorder.Action) : Chronicle σ :=
  actions.foldl after ⟨recorder, .blank⟩

end Chronicle

def Recorder.withLimit {σ : Type} (sink : σ) (frameLimit : Nat) : Recorder σ :=
  { ofSink sink with frameLimit }

end HeapScope
