import HeapScope.Proofs.Session.Replay

namespace HeapScope

def Draft.filed (draft : Draft) : FiledReport :=
  ⟨draft.event, draft.space, draft.tileCount, FrameBuilder.gather draft.calls⟩

structure ShowsReport (snapshot : SpaceSnapshot) (report : FiledReport) (earlier : List FiledReport) :
    Prop where
  space : snapshot.space = report.space
  event : snapshot.event = report.event
  tileCount : snapshot.tileCount = report.tileCount
  tileNames : snapshot.tileNames = shownNames (report :: earlier)
  streams : ∀ stream, snapshot.streams.get? stream = lastOf (Command.values? stream) report.body
  control : snapshot.control =
    ((lastOf Command.flags? report.body).getD []).map TileFlags.onWire
  summaries : ∀ stream, snapshot.summaries.get? stream = lastOf (Command.summary? stream) report.body
  info : snapshot.info = (lastOf Command.info? report.body).getD ""

def ShowsLatest (shown : Option SpaceSnapshot) : List FiledReport → Prop
  | [] => shown = none
  | report :: earlier => ∃ snapshot, shown = some snapshot ∧ ShowsReport snapshot report earlier

structure Ledger where
  -- The latest first.
  reports : List FiledReport
  -- The safepoints that were asked for while no space was open.
  asked : List EventId
  passed : List SafepointRecord
  farewell : Bool

namespace Ledger

def blank : Ledger := ⟨[], [], [], false⟩

def reportsOf (ledger : Ledger) (space : SpaceId) : List FiledReport :=
  ledger.reports.filter fun report => report.space = space

def timesAsked (ledger : Ledger) (event : EventId) : Nat :=
  min (ledger.asked.count event) Recorder.largestCount

def ask (ledger : Ledger) (event : EventId) (current : Option SpaceId) : Ledger :=
  if current = none then { ledger with asked := event :: ledger.asked } else ledger

def pass (ledger : Ledger) (event : EventId) (compensation : Duration) : Ledger :=
  let record := ⟨event, UInt32.ofNat (ledger.timesAsked event), compensation.microseconds⟩
  { ledger with passed := ledger.passed ++ [record] }

def file (ledger : Ledger) (draft : Option Draft) : Ledger :=
  { ledger with reports := (draft.map Draft.filed).toList ++ ledger.reports }

variable {σ : Type}

def record (ledger : Ledger) (draft : Option Draft) (recorder : Recorder σ) (action : Recorder.Action)
    (outcome : Except Error Unit) : Ledger :=
  match action, outcome with
  | .report (.endSpace _), .ok () => ledger.file draft
  | .report (.safepoint event), .ok () =>
    (ledger.ask event recorder.current).pass event recorder.compensation
  | .report (.safepoint event), .error _ => ledger.ask event recorder.current
  | .shutdown, .ok () => { ledger with farewell := true }
  | _, _ => ledger

end Ledger

structure Account (σ : Type) where
  chronicle : Chronicle σ
  ledger : Ledger

namespace Account

variable {σ : Type} [Sink σ]

def after (account : Account σ) (action : Recorder.Action) : Account σ where
  chronicle := account.chronicle.after action
  ledger := account.ledger.record account.chronicle.journal.draft account.chronicle.recorder action
    (account.chronicle.recorder.act action).1

def ofActions (recorder : Recorder σ) (actions : List Recorder.Action) : Account σ :=
  actions.foldl after ⟨⟨recorder, .blank⟩, .blank⟩

theorem account_chronicle (recorder : Recorder σ) (actions : List Recorder.Action) :
    (ofActions recorder actions).chronicle = Chronicle.ofActions recorder actions := by
  suffices each : ∀ account : Account σ, (actions.foldl after account).chronicle =
      actions.foldl Chronicle.after account.chronicle from each _
  induction actions with
  | nil =>
    intro account
    rfl
  | cons action actions ih =>
    intro account
    exact ih (account.after action)

end Account

theorem names_kept (session : Session) (space : SpaceId) (tileCount : UInt32)
    (earlier : List FiledReport) (shown : ShowsLatest (session.space? space) earlier) :
    session.keptNames space tileCount =
      if earlier.head?.map FiledReport.tileCount = some tileCount then shownNames earlier else [] := by
  unfold Session.keptNames
  cases earlier with
  | nil =>
    have absent : session.space? space = none := shown
    rw [absent]
    rfl
  | cons last earlier =>
    obtain ⟨snapshot, is, shows⟩ := shown
    rw [is]
    simp only [shows.tileCount, shows.tileNames, List.head?_cons, Option.map_some, Option.some.injEq]

-- The wire changes nothing in the commands of a report but the flags it has no bit for.
theorem last_of_wire (part : Command → Option α) (change : α → α)
    (each : ∀ command, part command.onWire = (part command).map change) (body : List Command) :
    lastOf part (body.map Command.onWire) = (lastOf part body).map change := by
  rw [← last_of_map, lastOf, List.filterMap_map]
  exact congrArg (fun parts => (body.filterMap parts).getLast?) (funext each)

theorem last_of_wire_kept (part : Command → Option α)
    (each : ∀ command, part command.onWire = part command) (body : List Command) :
    lastOf part (body.map Command.onWire) = lastOf part body := by
  have wire := last_of_wire part id (fun command => (each command).trans Option.map_id'.symm) body
  exact wire.trans Option.map_id'

theorem snapshot_shows (session : Session) (report : FiledReport) (earlier : List FiledReport)
    (shown : ShowsLatest (session.space? report.space) earlier) :
    ShowsReport (session.snapshotOf report.event report.space report.tileCount report.body) report
      earlier := by
  have holds := SpaceSnapshot.body_holds report.space report.event report.tileCount
    (session.keptNames report.space report.tileCount) (report.body.map Command.onWire)
  constructor
  case space => exact holds.space
  case event => exact holds.event
  case tileCount => exact holds.tileCount
  case tileNames =>
    refine holds.tileNames.trans ?_
    rw [shownNames, ← names_kept session report.space report.tileCount earlier shown]
    rw [last_of_wire_kept Command.names? fun command => by cases command <;> rfl]
  case streams =>
    intro stream
    refine (holds.streams stream).trans ?_
    exact last_of_wire_kept (Command.values? stream) (fun command => by cases command <;> rfl) _
  case control =>
    refine holds.control.trans ?_
    rw [last_of_wire Command.flags? (·.map TileFlags.onWire) fun command => by cases command <;> rfl]
    exact Option.getD_map _ [] _
  case summaries =>
    intro stream
    refine (holds.summaries stream).trans ?_
    exact last_of_wire_kept (Command.summary? stream) (fun command => by cases command <;> rfl) _
  case info =>
    refine holds.info.trans ?_
    rw [last_of_wire_kept Command.info? fun command => by cases command <;> rfl]

end HeapScope
