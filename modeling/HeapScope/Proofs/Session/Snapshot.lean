import HeapScope.Proofs.Report.Journal
import HeapScope.Session

namespace HeapScope

namespace Command

def names? : Command → Option (List String)
  | .tileNames _ names => some names
  | _ => none

def values? (stream : StreamId) : Command → Option (List Int32)
  | .streamData _ named _ values => if named = stream then some values else none
  | _ => none

def flags? : Command → Option (List TileFlags)
  | .control _ flags => some flags
  | _ => none

def summary? (stream : StreamId) : Command → Option (List Int32)
  | .summary _ named values => if named = stream then some values else none
  | _ => none

def info? : Command → Option String
  | .spaceInfo _ info => some info
  | _ => none

end Command

def lastOf (part : Command → Option α) (body : List Command) : Option α :=
  (body.filterMap part).getLast?

structure FiledReport where
  event : EventId
  space : SpaceId
  tileCount : UInt32
  body : List Command

def shownNames : List FiledReport → List String
  | [] => []
  | report :: earlier =>
    (lastOf Command.names? report.body).getD
      (if earlier.head?.map FiledReport.tileCount = some report.tileCount then shownNames earlier
        else [])

structure SpaceSnapshot.Holds (snapshot : SpaceSnapshot) (space : SpaceId) (event : EventId)
    (tileCount : UInt32) (kept : List String) (body : List Command) : Prop where
  space : snapshot.space = space
  event : snapshot.event = event
  tileCount : snapshot.tileCount = tileCount
  tileNames : snapshot.tileNames = (lastOf Command.names? body).getD kept
  streams : ∀ stream, snapshot.streams.get? stream = lastOf (Command.values? stream) body
  control : snapshot.control = (lastOf Command.flags? body).getD []
  summaries : ∀ stream, snapshot.summaries.get? stream = lastOf (Command.summary? stream) body
  info : snapshot.info = (lastOf Command.info? body).getD ""

def SpaceSnapshot.shows (report : SpaceSnapshot) : Command → SpaceSnapshot
  | .tileNames _ names => { report with tileNames := names }
  | .streamData _ stream _ values => { report with streams := report.streams.insert stream values }
  | .control _ flags => { report with control := flags }
  | .summary _ stream values => { report with summaries := report.summaries.insert stream values }
  | .spaceInfo _ info => { report with info }
  | _ => report

theorem last_of_append (part : Command → Option α) (body : List Command) (command : Command) :
    lastOf part (body ++ [command]) = (part command).or (lastOf part body) := by
  rw [lastOf, lastOf, List.filterMap_append]
  cases written : part command with
  | none => rw [List.filterMap_cons_none written, List.filterMap_nil, List.append_nil, Option.none_or]
  | some value =>
    rw [List.filterMap_cons_some written, List.filterMap_nil, List.getLast?_concat, Option.some_or]

theorem last_of_map (part : Command → Option α) (change : α → β) (body : List Command) :
    lastOf (fun command => (part command).map change) body = (lastOf part body).map change := by
  rw [lastOf, lastOf, ← List.getLast?_map, List.map_filterMap]

theorem get_insert_stream (table : Table StreamId (List Int32)) (named stream : StreamId)
    (values : List Int32) :
    (table.insert named values).get? stream =
      ((if named = stream then some values else none).map some).getD (table.get? stream) := by
  by_cases same : named = stream
  · rw [if_pos same, same]
    exact table.get_insert_self stream values
  · rw [if_neg same]
    exact table.get_insert_of_ne named stream values (Ne.symm same)

namespace SpaceSnapshot

theorem shows_space (report : SpaceSnapshot) (command : Command) :
    (report.shows command).space = report.space := by
  cases command <;> rfl

theorem body_keeps (field : SpaceSnapshot → α)
    (each : ∀ report command, field (report.shows command) = field report) (body : List Command)
    (report : SpaceSnapshot) : field (body.foldl shows report) = field report := by
  induction body generalizing report with
  | nil => rfl
  | cons command body ih => rw [List.foldl_cons, ih, each]

theorem last_shown (field : SpaceSnapshot → α) (part : Command → Option α)
    (each : ∀ report command, field (report.shows command) = (part command).getD (field report))
    (body : List Command) (report : SpaceSnapshot) :
    field (body.foldl shows report) = (lastOf part body).getD (field report) := by
  induction body generalizing report with
  | nil => rfl
  | cons command body ih =>
    rw [List.foldl_cons, ih, each, lastOf, lastOf]
    cases written : part command with
    | none => rw [List.filterMap_cons_none written, Option.getD_none]
    | some value =>
      rw [List.filterMap_cons_some written, List.getLast?_cons, Option.getD_some, Option.getD_some]

theorem last_entry_shown (table : SpaceSnapshot → Table StreamId (List Int32)) (stream : StreamId)
    (part : Command → Option (List Int32))
    (each : ∀ report command, (table (report.shows command)).get? stream =
      ((part command).map some).getD ((table report).get? stream))
    (body : List Command) (report : SpaceSnapshot) (blank : (table report).get? stream = none) :
    (table (body.foldl shows report)).get? stream = lastOf part body := by
  rw [last_shown (fun report => (table report).get? stream) _ each, last_of_map, blank]
  cases lastOf part body <;> rfl

theorem body_holds (space : SpaceId) (event : EventId) (tileCount : UInt32) (kept : List String)
    (body : List Command) :
    (body.foldl shows (start space event tileCount kept)).Holds space event tileCount kept body := by
  constructor
  case space => exact body_keeps (·.space) shows_space _ _
  case event =>
    refine body_keeps (·.event) ?_ _ _
    intro report command
    cases command <;> rfl
  case tileCount =>
    refine body_keeps (·.tileCount) ?_ _ _
    intro report command
    cases command <;> rfl
  case tileNames =>
    refine last_shown (·.tileNames) Command.names? ?_ _ _
    intro report command
    cases command <;> rfl
  case streams =>
    intro stream
    refine last_entry_shown (·.streams) stream (Command.values? stream) ?_ _ _ rfl
    intro report command
    cases command with
    | streamData space named kind values => exact get_insert_stream report.streams named stream values
    | _ => rfl
  case control =>
    refine last_shown (·.control) Command.flags? ?_ _ _
    intro report command
    cases command <;> rfl
  case summaries =>
    intro stream
    refine last_entry_shown (·.summaries) stream (Command.summary? stream) ?_ _ _ rfl
    intro report command
    cases command with
    | summary space named values => exact get_insert_stream report.summaries named stream values
    | _ => rfl
  case info =>
    refine last_shown (·.info) Command.info? ?_ _ _
    intro report command
    cases command <;> rfl

end SpaceSnapshot

end HeapScope
