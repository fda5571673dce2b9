import HeapScope.Identifier
import HeapScope.ValueKind

namespace HeapScope

inductive Presentation where
  | plain
  | plus
  | maxVar
  | percent
  | enum
deriving DecidableEq, Repr

namespace Presentation

def all : List Presentation := [.plain, .plus, .maxVar, .percent, .enum]

def code : Presentation → UInt8
  | .plain => 0
  | .plus => 1
  | .maxVar => 2
  | .percent => 3
  | .enum => 4

def ofCode? (code : UInt8) : Option Presentation := all.find? (·.code = code)

theorem code_read_back (presentation : Presentation) :
    ofCode? presentation.code = some presentation := by
  cases presentation <;> rfl

theorem code_of_known {code : UInt8} {presentation : Presentation}
    (known : ofCode? code = some presentation) : presentation.code = code := by
  simpa using List.find?_some known

end Presentation

inductive PaintStyle where
  | plain
  | zero
deriving DecidableEq, Repr

namespace PaintStyle

def all : List PaintStyle := [.plain, .zero]

def code : PaintStyle → UInt8
  | .plain => 0
  | .zero => 1

def ofCode? (code : UInt8) : Option PaintStyle := all.find? (·.code = code)

theorem code_read_back (style : PaintStyle) : ofCode? style.code = some style := by
  cases style <;> rfl

theorem code_of_known {code : UInt8} {style : PaintStyle} (known : ofCode? code = some style) :
    style.code = code := by
  simpa using List.find?_some known

end PaintStyle

structure Color where
  red : UInt8
  green : UInt8
  blue : UInt8
deriving DecidableEq, Repr

namespace Color

def pureRed : Color := ⟨255, 0, 0⟩
def pureBlue : Color := ⟨0, 0, 255⟩
def leafGreen : Color := ⟨0, 200, 0⟩
def orange : Color := ⟨255, 165, 0⟩

end Color

structure StreamDescriptor where
  id : StreamId
  name : String
  kind : ValueKind
  minValue : Int32
  maxValue : Int32
  zeroValue : Int32
  defaultValue : Int32
  labelBefore : String
  labelAfter : String
  presentation : Presentation
  paintStyle : PaintStyle
  maxStream : Option StreamId
  color : Color
  summary : Bool
deriving DecidableEq, Repr

def StreamDescriptor.ofKind (id : StreamId) (name : String) (kind : ValueKind) :
    StreamDescriptor where
  id := id
  name := name
  kind := kind
  minValue := 0
  maxValue := kind.clamp kind.highest
  zeroValue := 0
  defaultValue := 0
  labelBefore := ""
  labelAfter := ""
  presentation := .plain
  paintStyle := .zero
  maxStream := none
  color := .pureRed
  summary := true

structure SpaceDescriptor where
  id : SpaceId
  name : String
  driverName : String
  title : String
  blockInfo : String
  tileCount : UInt32
  unusedLabel : String
  mainSpace : Bool
  streams : List StreamDescriptor
deriving DecidableEq, Repr

def SpaceDescriptor.stream? (space : SpaceDescriptor) (id : StreamId) : Option StreamDescriptor :=
  space.streams.find? (·.id = id)

structure ServerInfo where
  name : String
  version : String
  generalInfo : String
  events : List String
  spaces : List SpaceDescriptor
deriving DecidableEq, Repr

namespace ServerInfo

def blank : ServerInfo := ⟨"", "", "", [], []⟩

def eventName? (info : ServerInfo) (event : EventId) : Option String := info.events[event.index]?

def knows (info : ServerInfo) (event : EventId) : Bool := event.index < info.events.length

end ServerInfo

end HeapScope
