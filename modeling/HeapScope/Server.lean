import HeapScope.LinearSpace.Transmit
import HeapScope.Report.Recorder
import HeapScope.Server.Attachment
import HeapScope.Server.ClientReader
import HeapScope.Settings
import HeapScope.Version

/- A server that reports to one client at a time. What the collector tells it is written to the client
   that it has taken over as its writer; a client that attaches meanwhile waits until the next report or
   safepoint begins, so that it never sees a part of one. A connection that fails costs the server its
   client and the collector nothing. -/
namespace HeapScope

structure Client (σ : Type) where
  generation : Nat
  recorder : Recorder σ

inductive Arrival (σ : Type) where
  | client (sink : σ)
  | nameless
  | failed (cause : Transport)
  | wakeUp

inductive Acceptor (σ : Type) where
  | waiting
  | accepted (arrival : Arrival σ)
  | admitted (sink : σ)
  | greeting (sink : σ)
  | greeted (recorder : Recorder σ)
  | stopped

structure Server (σ : Type) where
  settings : Settings
  info : ServerInfo
  attachment : Attachment
  -- The client that attached last, until the collector takes it over.
  incoming : Option (Client σ)
  writer : Option (Client σ)
  -- Clients to which nothing more is written, latest first.
  departed : List (Client σ)
  readers : List ClientReader
  address : Option SocketAddress
  acceptor : Option (Acceptor σ)
  backlog : List (Arrival σ)
  shuttingDown : Bool
  timer : Option Duration

namespace Server

def make (settings : Settings) (events : List String) (build : Build := {}) :
    Except Error (Server σ) :=
  settings.validate.map fun _ => {
    settings := settings
    info := {
      name := settings.serverName
      version := build.version
      generalInfo := settings.generalInfo
      events := events
      spaces := [] }
    attachment := .start
    incoming := none
    writer := none
    departed := []
    readers := []
    address := none
    acceptor := none
    backlog := []
    shuttingDown := false
    timer := none }

def withSpace (server : Server σ) (space : SpaceDescriptor) : Server σ :=
  { server with info := { server.info with spaces := server.info.spaces ++ [space] } }

def addSpace (server : Server σ) (space : SpaceDescriptor) : Except Error (Server σ) :=
  if server.address.isSome then .error .alreadyStarted
  else if server.info.spaces.any (·.id = space.id) then .error (.duplicateSpace space.id)
  else .ok (server.withSpace space)

def localAddress (server : Server σ) : Except Error SocketAddress :=
  match server.address with
  | some address => .ok address
  | none => .error .notStarted

def hasClient (server : Server σ) : Bool := server.attachment.connected

def isPaused (server : Server σ) : Bool := server.attachment.isPaused

def isRegistered (server : Server σ) (event : EventId) : Bool :=
  event.index < server.info.events.length

def isConnected (server : Server σ) (event : EventId) : Bool :=
  server.isRegistered event && server.attachment.hears event

def needsTileNames (server : Server σ) (space : SpaceId) : Bool :=
  server.writer.any (·.recorder.needsTileNames space)

/- The collector's side -/

def isCurrent (server : Server σ) (client : Client σ) : Bool :=
  server.attachment.isCurrent client.generation

-- Takes over the client that has attached, or forgets the one that has left.
def syncClient (server : Server σ) : Server σ :=
  match server.incoming with
  | some client =>
    if server.isCurrent client then
      { server with
        incoming := none
        writer := some client
        departed := server.writer.toList ++ server.departed }
    else
      let stays := server.writer.filter server.isCurrent
      let leaves := server.writer.filter (!server.isCurrent ·)
      { server with
        incoming := none
        writer := stays
        departed := leaves.toList ++ client :: server.departed }
  | none =>
    let stays := server.writer.filter server.isCurrent
    let leaves := server.writer.filter (!server.isCurrent ·)
    { server with writer := stays, departed := leaves.toList ++ server.departed }

def endReader (server : Server σ) (generation : Nat) : Server σ :=
  { server with
    readers := server.readers.map fun reader =>
      if reader.generation = generation then { reader with ended := true } else reader }

def dropClient (server : Server σ) : Server σ :=
  match server.writer with
  | none => server
  | some client =>
    { server.endReader client.generation with
      writer := none
      departed := client :: server.departed
      attachment := server.attachment.detach client.generation }

-- A call to the writer, if there is one. When the connection fails the client is dropped and the call
-- has succeeded; after any other failure the report that was begun is thrown away.
def withWriter (server : Server σ)
    (call : Recorder σ → Except Error Unit × Recorder σ) : Except Error Unit × Server σ :=
  match server.writer with
  | none => (.ok (), server)
  | some client =>
    match call client.recorder with
    | (.ok (), recorder) => (.ok (), { server with writer := some { client with recorder } })
    | (.error error, recorder) =>
      if error.isTransport then
        (.ok (), dropClient { server with writer := some { client with recorder } })
      else
        (.error error,
          { server with writer := some { client with recorder := recorder.discard } })

def withEvent (server : Server σ) (event : EventId)
    (call : Server σ → α × Server σ) (refuse : Error → α) : α × Server σ :=
  if server.isRegistered event then call server.syncClient
  else (refuse (.unknownEvent event), server)

inductive Passage where
  | passed (outcome : Except Error Unit)
  | waiting

def recheck (server : Server σ) : Passage × Server σ :=
  match server.attachment.pass? with
  | some attachment => (.passed (.ok ()), { server with attachment })
  | none => (.waiting, server)

def safepoint [Sink σ] (server : Server σ) (event : EventId) : Passage × Server σ :=
  server.withEvent event (fun server =>
    if server.isConnected event then
      match server.withWriter (·.safepoint event) with
      | (.error error, server) => (.passed (.error error), server)
      | (.ok (), server) => server.recheck
    else (.passed (.ok ()), server)) fun error => .passed (.error error)

-- A safepoint fails before it waits or not at all.
def Passage.outcome : Passage → Except Error Unit
  | .passed outcome => outcome
  | .waiting => .ok ()

def startTimer (server : Server σ) (now : Duration) : Server σ :=
  { server with timer := some (server.timer.getD now) }

-- The time is charged to the client that is the writer when the timer stops.
def stopTimer (server : Server σ) (now : Duration) : Server σ :=
  match server.timer with
  | none => server
  | some started =>
    { server with
      timer := none
      writer := server.writer.map fun client =>
        { client with recorder := client.recorder.addCompensation (started.between now) } }

def perform [Sink σ] (server : Server σ) : ReportCall → Except Error Unit × Server σ
  | .beginSpace event space tileCount =>
    server.withEvent event (·.withWriter (·.beginSpace event space tileCount)) .error
  | .safepoint event =>
    let (passage, server) := server.safepoint event
    (passage.outcome, server)
  | .startTimer now => (.ok (), server.startTimer now)
  | .stopTimer now => (.ok (), server.stopTimer now)
  | call => server.withWriter (·.perform call)

/- The client's side -/

def readerMove (server : Server σ) (generation : Nat) : Server σ :=
  let put (next : ClientReader) : List ClientReader :=
    server.readers.map fun reader => if reader.generation = generation then next else reader
  match server.readers.find? (·.generation = generation) with
  | none => server
  | some reader =>
    match reader.move with
    | .wait => server
    | .decode next => { server with readers := put next }
    | .apply command next =>
      { server with readers := put next, attachment := server.attachment.apply command }
    | .leave =>
      { server with
        readers := server.readers.filter (·.generation ≠ generation)
        attachment := server.attachment.detach generation }

def settleReader (server : Server σ) (generation : Nat) : Server σ :=
  match server.readers.find? (·.generation = generation) with
  | none => server
  | some reader => Nat.repeat (·.readerMove generation) (reader.movesLeft + 1) server

def receive (server : Server σ) (generation : Nat) (bytes : Bytes) : Server σ :=
  let feed (reader : ClientReader) : ClientReader :=
    if reader.generation = generation then reader.feed bytes else reader
  settleReader { server with readers := server.readers.map feed } generation

def mapSink (change : σ → σ) (client : Client σ) : Client σ :=
  { client with recorder := { client.recorder with sink := change client.recorder.sink } }

def hangUp (server : Server σ) (generation : Nat) (change : σ → σ) : Server σ :=
  let closed (client : Client σ) : Client σ :=
    if client.generation = generation then mapSink change client else client
  settleReader { server.endReader generation with
    incoming := server.incoming.map closed
    writer := server.writer.map closed } generation

def sinkOf? (server : Server σ) (generation : Nat) : Option σ :=
  let clients := server.writer.toList ++ server.incoming.toList ++ server.departed
  (clients.find? (·.generation = generation)).map (·.recorder.sink)

end Server

instance [Sink σ] : Reporter (Server σ) where
  isConnected := Server.isConnected
  needsTileNames := Server.needsTileNames
  perform := Server.perform

end HeapScope
