import HeapScope.Wire.Commands

namespace HeapScope

structure FrameSplitter where
  limit : Nat
  buffered : Bytes
deriving DecidableEq, Repr

namespace FrameSplitter

def ofLimit (limit : Nat) : FrameSplitter := ⟨limit, []⟩

def feed (splitter : FrameSplitter) (bytes : Bytes) : FrameSplitter :=
  { splitter with buffered := splitter.buffered ++ bytes }

def next (splitter : FrameSplitter) : Except Error (Option (List Command)) × FrameSplitter :=
  let header := splitter.buffered.take 4
  let body := splitter.buffered.drop 4
  let length := Bytes.number header
  if header.length < 4 then (.ok none, splitter)
  else if splitter.limit < length then (.error (.frameTooLarge length splitter.limit), splitter)
  else if body.length < length then (.ok none, splitter)
  else ((Wire.decode (body.take length)).map some, { splitter with buffered := body.drop length })

inductive Call where
  | feed (bytes : Bytes)
  | next
deriving DecidableEq, Repr

def perform (splitter : FrameSplitter) :
    Call → Option (Except Error (Option (List Command))) × FrameSplitter
  | .feed bytes => (none, splitter.feed bytes)
  | .next => (some splitter.next.1, splitter.next.2)

end FrameSplitter

end HeapScope
