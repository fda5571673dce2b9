import HeapScope.Server.Acceptance

namespace HeapScope

inductive Channel (σ : Type) where
  | silent
  | server (server : Server σ)

namespace Channel

variable {σ : Type} [Sink σ]

def addSpaces (server : Server σ) (spaces : List SpaceDescriptor) : Except Error (Server σ) :=
  spaces.foldlM Server.addSpace server

def make (settings : Settings) (events : List String) (spaces : List SpaceDescriptor)
    (machine : Server.Machine σ) : Except Error (Channel σ) := do
  if !settings.enabled then return .silent
  let server ← Server.make settings events
  let server ← addSpaces server spaces
  match server.start machine with
  | (.error error, _) => .error error
  | (.ok _, server) => return .server server

end Channel

instance {σ : Type} [Sink σ] : Reporter (Channel σ) where
  isConnected
    | .silent => fun _ => false
    | .server server => server.isConnected
  needsTileNames
    | .silent => fun _ => false
    | .server server => server.needsTileNames
  perform
    | .silent => fun _ => (.ok (), .silent)
    | .server server => fun call =>
      let (outcome, server) := server.perform call
      (outcome, .server server)

end HeapScope
