import HeapScope.Error
import HeapScope.SocketAddress

namespace HeapScope

structure Settings where
  enabled : Bool := false
  serverName : String := "gcspy"
  bindAddress : String := "127.0.0.1"
  port : UInt16 := 3000
  waitForClient : Bool := false
  generalInfo : String := ""
  frameLimit : Nat := 16 * 1024 * 1024
  verbose : Bool := false
deriving DecidableEq, Repr

namespace Settings

def default : Settings := {}

-- A shorter limit would leave no room for a report.
def leastFrameLimit : Nat := 64

inductive Problem where
  | emptyName
  | shortFrames (limit : Nat)
  | badAddress (text : String)
  | notBoolean (name text : String)
  | notAPort (name text : String) (fault : Digits.Fault)
deriving DecidableEq, Repr

def Problem.reason : Problem → String
  | .emptyName => "server name must not be empty"
  | .shortFrames limit => s!"max frame length {limit} is too small"
  | .badAddress text => "bind address " ++ text ++ ": invalid socket address syntax"
  | .notBoolean name text => name ++ "=" ++ text ++ " is not a boolean"
  | .notAPort name text fault => name ++ "=" ++ text ++ ": " ++ fault.text

def refused (problem : Problem) : Except Error α := .error (.badSettings problem.reason)

def addressText (settings : Settings) : String :=
  settings.bindAddress ++ ":" ++ toString settings.port.toNat

def socketAddress (settings : Settings) : Except Error SocketAddress :=
  match SocketAddress.ofText? settings.addressText with
  | some address => .ok address
  | none => refused (.badAddress settings.addressText)

def validate (settings : Settings) : Except Error Unit :=
  if settings.serverName.isEmpty then refused .emptyName
  else if settings.frameLimit < leastFrameLimit then refused (.shortFrames settings.frameLimit)
  else settings.socketAddress.map fun _ => ()

def validated (settings : Settings) : Except Error Settings :=
  settings.validate.map fun _ => settings

end Settings

end HeapScope
