import HeapScope.Server.Acceptance

/- How a server ends. It says goodbye to its clients, notes that it is shutting down, forgets that a
   client is attached, and at last wakes the acceptor and waits for it to stop. The address stays, so a
   server does not start again. -/
namespace HeapScope.Server

variable {σ : Type} [Sink σ]

def sayGoodbye (client : Client σ) : Client σ :=
  { client with recorder := client.recorder.sendShutdown.2 }

def dismissClients (server : Server σ) : Server σ :=
  let clients := server.writer.toList ++ server.incoming.toList
  let dismissed := { server with
    writer := none
    incoming := none
    departed := clients.map sayGoodbye ++ server.departed }
  clients.foldl (fun server client => server.endReader client.generation) dismissed

omit [Sink σ] in
def raiseShutdown (server : Server σ) : Server σ := { server with shuttingDown := true }

omit [Sink σ] in
def closeAttachment (server : Server σ) : Server σ :=
  { server with attachment := server.attachment.close }

omit [Sink σ] in
def wakeAcceptor (server : Server σ) : Server σ := server.arrive .wakeUp

omit [Sink σ] in
def joinAcceptor? (server : Server σ) : Option (Server σ) :=
  match server.acceptor with
  | none => some server
  | some .stopped => some { server with acceptor := none, backlog := [] }
  | some _ => none

def shutdown (server : Server σ) : Server σ :=
  let closed := server.dismissClients.raiseShutdown.closeAttachment.wakeAcceptor
  let stopped := Nat.repeat (·.acceptorMove) movesPerArrival closed
  let joined := stopped.joinAcceptor?.getD stopped
  joined.readers.foldl (fun server reader => server.settleReader reader.generation) joined

end HeapScope.Server
