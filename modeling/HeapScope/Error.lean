import HeapScope.Hex
import HeapScope.Identifier
import HeapScope.ValueKind

namespace HeapScope

inductive Transport where
  | brokenPipe
  | connectionReset
  | endOfData
  | nothingTaken
  | noSuchFile
  | addressUnavailable
deriving DecidableEq, Repr

def Transport.text : Transport → String
  | .brokenPipe => "broken pipe"
  | .connectionReset => "connection reset"
  | .endOfData => "failed to fill whole buffer"
  | .nothingTaken => "failed to write whole buffer"
  | .noSuchFile => "No such file or directory (os error 2)"
  | .addressUnavailable => "Cannot assign requested address (os error 99)"

inductive Error where
  | transport (cause : Transport)
  | badSettings (reason : String)
  | unreadableSettings
  | unreadableJson
  | duplicateSpace (space : SpaceId)
  | unknownEvent (event : EventId)
  | alreadyStarted
  | notStarted
  | spaceAlreadyOpen (current requested : SpaceId)
  | safepointInsideSpace (event : EventId) (current : SpaceId)
  | noOpenSpace (space : SpaceId)
  | spaceMismatch (current got : SpaceId)
  | incompleteControl (space : SpaceId) (remaining : Nat)
  | noOpenControl
  | stringTooLong (length : Nat)
  | valueOutOfRange (value : Int32) (kind : ValueKind)
  | tooManyItems (what : String) (count : Nat)
  | addressOutOfRange (space : SpaceId) (address : Nat)
  | invalidRange (start stop blockSize : Nat)
  | tileOutOfRange (index tiles : Nat)
  | malformed (reason : String)
  | frameTooLarge (length limit : Nat)
deriving DecidableEq, Repr

namespace Error

def message : Error → String
  | .transport cause => "IO error: " ++ cause.text
  | .badSettings reason => "invalid configuration: " ++ reason
  | .unreadableSettings => "failed to parse configuration file"
  | .unreadableJson => "failed to serialize snapshot"
  | .duplicateSpace space => space.text ++ " is already registered"
  | .unknownEvent event => event.text ++ " is not a registered event"
  | .alreadyStarted => "server already started"
  | .notStarted => "server has not been started"
  | .spaceAlreadyOpen current requested =>
    "cannot begin " ++ requested.text ++ " while " ++ current.text ++ " is still open"
  | .safepointInsideSpace event current =>
    "safepoint for " ++ event.text ++ " while " ++ current.text ++ " is still open"
  | .noOpenSpace space => "no space is open for " ++ space.text
  | .spaceMismatch current got => "command for " ++ got.text ++ " while " ++ current.text ++ " is open"
  | .incompleteControl space remaining =>
    "control block for " ++ space.text ++ s!" still expects {remaining} entries"
  | .noOpenControl => "control value written with no open control block"
  | .stringTooLong length => s!"string of {length} bytes exceeds the wire limit"
  | .valueOutOfRange value kind => s!"value {value.toInt} does not fit a " ++ kind.text ++ " stream"
  | .tooManyItems what count => s!"{count} items exceed the wire limit for " ++ what
  | .addressOutOfRange space address =>
    "address " ++ Hex.text address ++ " is outside " ++ space.text
  | .invalidRange start stop blockSize =>
    "invalid address range " ++ Hex.text start ++ ".." ++ Hex.text stop
      ++ s!" with block size {blockSize}"
  | .tileOutOfRange index tiles => s!"tile {index} is outside a space of {tiles} tiles"
  | .malformed reason => "malformed command stream: " ++ reason
  | .frameTooLarge length limit => s!"frame of {length} bytes exceeds limit of {limit}"

def isTransport : Error → Bool
  | .transport _ => true
  | _ => false

end Error

end HeapScope
