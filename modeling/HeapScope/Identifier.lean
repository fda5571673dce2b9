namespace HeapScope

structure SpaceId where
  number : UInt8
deriving DecidableEq, Repr

structure StreamId where
  number : UInt8
deriving DecidableEq, Repr

structure EventId where
  number : UInt16
deriving DecidableEq, Repr

def SpaceId.text (space : SpaceId) : String := s!"space#{space.number.toNat}"

def StreamId.text (stream : StreamId) : String := s!"stream#{stream.number.toNat}"

def EventId.text (event : EventId) : String := s!"event#{event.number.toNat}"

def EventId.index (event : EventId) : Nat := event.number.toNat

end HeapScope
