import HeapScope.Server

namespace HeapScope.Server

variable {σ : Type} [Sink σ]

-- Introduces the server over a connection. The limit of the settings holds for what follows.
def greet (server : Server σ) (sink : σ) : Except Error Unit × Recorder σ :=
  let (outcome, recorder) := Recorder.withHello sink server.info
  (outcome, { recorder with frameLimit := server.settings.frameLimit })

omit [Sink σ] in
def publish (server : Server σ) (recorder : Recorder σ) : Server σ :=
  let attachment := server.attachment.attach
  { server with
    attachment
    incoming := some ⟨attachment.generation, recorder⟩
    departed := server.incoming.toList ++ server.departed
    readers := server.readers ++
      [.start attachment.generation server.settings.frameLimit] }

omit [Sink σ] in
def withdraw (server : Server σ) : Server σ :=
  let generation := server.attachment.generation
  { server with
    attachment := server.attachment.detach generation
    incoming := none
    departed := server.incoming.toList ++ server.departed
    readers := server.readers.filter (·.generation ≠ generation) }

omit [Sink σ] in
-- The reader of a client has a thread of its own, and without it the client cannot stay.
def welcome (server : Server σ) (recorder : Recorder σ) (reader : Except Transport Unit) :
    Except Error Unit × Server σ :=
  match reader with
  | .ok () => (.ok (), server.publish recorder)
  | .error cause => (.error (.transport cause), (server.publish recorder).withdraw)

def attach (server : Server σ) (sink : σ) (reader : Except Transport Unit) :
    Except Error Unit × Server σ :=
  match server.greet sink with
  | (.error error, _) => (.error error, server)
  | (.ok (), recorder) => server.welcome recorder reader

def acceptorMove (server : Server σ) (reader : Except Transport Unit := .ok ()) : Server σ :=
  match server.acceptor with
  | none | some .stopped => server
  | some .waiting =>
    match server.backlog with
    | [] => server
    | arrival :: backlog => { server with backlog, acceptor := some (.accepted arrival) }
  | some (.accepted arrival) =>
    if server.shuttingDown then { server with acceptor := some .stopped }
    else
      match arrival with
      | .client sink => { server with acceptor := some (.admitted sink) }
      | _ => { server with acceptor := some .waiting }
  | some (.admitted sink) =>
    if server.attachment.connected then { server with acceptor := some .waiting }
    else { server with acceptor := some (.greeting sink) }
  | some (.greeting sink) =>
    match server.greet sink with
    | (.error _, _) => { server with acceptor := some .waiting }
    | (.ok (), recorder) => { server with acceptor := some (.greeted recorder) }
  | some (.greeted recorder) =>
    { (server.welcome recorder reader).2 with acceptor := some .waiting }

def movesPerArrival : Nat := 5

omit [Sink σ] in
def isListening (server : Server σ) : Bool :=
  match server.acceptor with
  | none | some .stopped => false
  | _ => true

omit [Sink σ] in
def arrive (server : Server σ) (arrival : Arrival σ) : Server σ :=
  if server.isListening then { server with backlog := server.backlog ++ [arrival] } else server

def connect (server : Server σ) (arrival : Arrival σ) : Server σ :=
  Nat.repeat (·.acceptorMove) movesPerArrival (server.arrive arrival)

structure Machine (σ : Type) where
  bind : SocketAddress → Except Transport SocketAddress
  first : Except Transport σ
  reader : Except Transport Unit := .ok ()
  acceptor : Except Transport Unit := .ok ()

def attend (server : Server σ) (machine : Machine σ) : Except Error Unit × Server σ :=
  if server.settings.waitForClient then
    match machine.first with
    | .ok sink => server.attach sink machine.reader
    | .error cause => (.error (.transport cause), server)
  else (.ok (), server)

def start (server : Server σ) (machine : Machine σ) : Except Error SocketAddress × Server σ :=
  if server.address.isSome then (.error .alreadyStarted, server)
  else
    match server.settings.socketAddress with
    | .error error => (.error error, server)
    | .ok wanted =>
      match machine.bind wanted with
      | .error cause => (.error (.transport cause), server)
      | .ok address =>
        match attend { server with address := some address } machine, machine.acceptor with
        | (.error error, attended), _ => (.error error, attended)
        | (.ok (), attended), .error cause => (.error (.transport cause), attended)
        | (.ok (), attended), .ok () => (.ok address, { attended with acceptor := some .waiting })

end HeapScope.Server
