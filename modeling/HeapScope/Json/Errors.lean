import HeapScope.Error
import HeapScope.Json.Descriptors

namespace HeapScope.Error

open Json

def name : Error → String
  | .transport _ => "Io"
  | .badSettings _ => "Config"
  | .unreadableSettings => "ConfigFile"
  | .unreadableJson => "Json"
  | .duplicateSpace _ => "DuplicateSpace"
  | .unknownEvent _ => "UnknownEvent"
  | .alreadyStarted => "AlreadyStarted"
  | .notStarted => "NotStarted"
  | .spaceAlreadyOpen .. => "SpaceAlreadyOpen"
  | .safepointInsideSpace .. => "SafepointInsideSpace"
  | .noOpenSpace _ => "NoOpenSpace"
  | .spaceMismatch .. => "SpaceMismatch"
  | .incompleteControl .. => "IncompleteControl"
  | .noOpenControl => "NoOpenControl"
  | .stringTooLong _ => "StringTooLong"
  | .valueOutOfRange .. => "ValueOutOfRange"
  | .tooManyItems .. => "TooManyItems"
  | .addressOutOfRange .. => "AddressOutOfRange"
  | .invalidRange .. => "InvalidRange"
  | .tileOutOfRange .. => "TileOutOfRange"
  | .malformed _ => "Malformed"
  | .frameTooLarge .. => "FrameTooLarge"

def ownMessage : Error → Bool
  | .unreadableSettings | .unreadableJson => false
  | _ => true

def toFields (error : Error) : List (String × Json) :=
  ("error", .text error.name) :: if error.ownMessage then [("message", .text error.message)] else []

def ofFields? (name : String) (fields : List (String × Json)) : Option Error := do
  let space (key : String) := field? fields key SpaceId.ofJson?
  let number (key : String) := field? fields key (natBelow? (2 ^ 64))
  let event := field? fields "event" EventId.ofJson?
  let text (key : String) := field? fields key text?
  match name with
  | "Io" => return .transport .brokenPipe
  | "Config" => return .badSettings (← text "reason")
  | "ConfigFile" => return .unreadableSettings
  | "Json" => return .unreadableJson
  | "DuplicateSpace" => return .duplicateSpace (← space "space")
  | "UnknownEvent" => return .unknownEvent (← event)
  | "AlreadyStarted" => return .alreadyStarted
  | "NotStarted" => return .notStarted
  | "SpaceAlreadyOpen" => return .spaceAlreadyOpen (← space "open") (← space "requested")
  | "SafepointInsideSpace" => return .safepointInsideSpace (← event) (← space "open")
  | "NoOpenSpace" => return .noOpenSpace (← space "space")
  | "SpaceMismatch" => return .spaceMismatch (← space "open") (← space "got")
  | "IncompleteControl" => return .incompleteControl (← space "space") (← number "remaining")
  | "NoOpenControl" => return .noOpenControl
  | "StringTooLong" => return .stringTooLong (← number "len")
  | "ValueOutOfRange" =>
    return .valueOutOfRange (← field? fields "value" int32?) (← field? fields "kind" ValueKind.ofJson?)
  | "TooManyItems" => return .tooManyItems (← text "what") (← number "count")
  | "AddressOutOfRange" => return .addressOutOfRange (← space "space") (← number "addr")
  | "InvalidRange" =>
    return .invalidRange (← number "start") (← number "end") (← number "block_size")
  | "TileOutOfRange" => return .tileOutOfRange (← number "index") (← number "tiles")
  | "Malformed" => return .malformed (← text "reason")
  | "FrameTooLarge" => return .frameTooLarge (← number "len") (← number "limit")
  | _ => none

end HeapScope.Error
