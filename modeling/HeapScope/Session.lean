import HeapScope.Frame.Source
import HeapScope.Table

namespace HeapScope

structure SpaceSnapshot where
  space : SpaceId
  event : EventId
  tileCount : UInt32
  tileNames : List String
  streams : Table StreamId (List Int32)
  control : List TileFlags
  summaries : Table StreamId (List Int32)
  info : String
deriving DecidableEq, Repr

def SpaceSnapshot.start (space : SpaceId) (event : EventId) (tileCount : UInt32)
    (tileNames : List String) : SpaceSnapshot where
  space := space
  event := event
  tileCount := tileCount
  tileNames := tileNames
  streams := .empty
  control := []
  summaries := .empty
  info := ""

structure SafepointRecord where
  event : EventId
  count : UInt32
  microseconds : Nat
deriving DecidableEq, Repr

structure Session where
  info : Option ServerInfo
  spaces : Table SpaceId SpaceSnapshot
  current : Option SpaceSnapshot
  safepoints : List SafepointRecord
  shutDown : Bool
deriving DecidableEq, Repr

def putSpace (space : SpaceDescriptor) : List SpaceDescriptor → List SpaceDescriptor
  | [] => [space]
  | first :: rest => if first.id = space.id then space :: rest else first :: putSpace space rest

namespace Session

def start : Session := ⟨none, .empty, none, [], false⟩

def space? (session : Session) (space : SpaceId) : Option SpaceSnapshot := session.spaces.get? space

def update (session : Session) (space : SpaceId) (change : SpaceSnapshot → SpaceSnapshot) :
    Except Error Session :=
  match session.current with
  | none => .error (.noOpenSpace space)
  | some current =>
    if current.space = space then .ok { session with current := some (change current) }
    else .error (.spaceMismatch current.space space)

-- The names a new report starts with: names are sent again only when the tiles change.
def keptNames (session : Session) (space : SpaceId) (tileCount : UInt32) : List String :=
  match session.space? space with
  | some last => if last.tileCount = tileCount then last.tileNames else []
  | none => []

def beginSpace (session : Session) (space : SpaceId) (event : EventId) (tileCount : UInt32) :
    Except Error Session :=
  match session.current with
  | some current => .error (.spaceAlreadyOpen current.space space)
  | none =>
    let names := session.keptNames space tileCount
    .ok { session with current := some (.start space event tileCount names) }

def endSpace (session : Session) (space : SpaceId) : Except Error Session :=
  match session.current with
  | none => .error (.noOpenSpace space)
  | some current =>
    if current.space = space then
      .ok { session with spaces := session.spaces.insert space current, current := none }
    else .error (.spaceMismatch current.space space)

def apply (session : Session) (command : Command) : Except Error Session :=
  match command with
  | .hello info => .ok { session with info := some info }
  | .spaceDef space =>
    let info := session.info.getD .blank
    .ok { session with info := some { info with spaces := putSpace space info.spaces } }
  | .spaceBegin space event tileCount => session.beginSpace space event tileCount
  | .tileNames space names => session.update space ({ · with tileNames := names })
  | .streamData space stream _ values =>
    session.update space fun report =>
      { report with streams := report.streams.insert stream values }
  | .control space flags => session.update space ({ · with control := flags })
  | .summary space stream values =>
    session.update space fun report =>
      { report with summaries := report.summaries.insert stream values }
  | .spaceInfo space info => session.update space ({ · with info })
  | .spaceEnd space => session.endSpace space
  | .safepoint event count compensation =>
    let record := ⟨event, count, compensation.microseconds⟩
    .ok { session with safepoints := session.safepoints ++ [record] }
  | .shutdown => .ok { session with shutDown := true }
  | .play | .pause | .step | .enableEvent .. | .disconnect =>
    .error (.malformed ("client command " ++ command.clientText ++ " in a server stream"))

def applyAll (session : Session) : List Command → Except Error Unit × Session
  | [] => (.ok (), session)
  | command :: commands =>
    match session.apply command with
    | .error error => (.error error, session)
    | .ok session => session.applyAll commands

def follow (session : Session) (source : ByteSource) (limit : Nat) :
    Except Error Unit × Session × ByteSource :=
  if session.shutDown then (.ok (), session, source)
  else
    match reached : source.readFrame limit with
    | (.error error, source) => (.error error, session, source)
    | (.ok none, source) => (.ok (), session, source)
    | (.ok (some commands), rest) =>
      have : rest.left < source.left := ByteSource.read_frame_left reached
      match session.applyAll commands with
      | (.error error, session) => (.error error, session, rest)
      | (.ok (), session) => session.follow rest limit
termination_by source.left

end Session

end HeapScope
