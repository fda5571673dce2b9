import HeapScope.Bytes
import HeapScope.Error

/- Where finished frames go. One write may take fewer bytes than it is given, so a frame is written by
   writing what is left of it again and again; bytes taken before a failure stay taken. -/
namespace HeapScope

class Sink (σ : Type) where
  write : σ → Bytes → Except Transport Nat × σ
  flush : σ → Except Transport Unit × σ

def Sink.writeAll [Sink σ] (sink : σ) (bytes : Bytes) : Except Transport Unit × σ :=
  match bytes with
  | [] => (.ok (), sink)
  | byte :: bytes =>
    match Sink.write sink (byte :: bytes) with
    | (.error cause, sink) => (.error cause, sink)
    | (.ok 0, sink) => (.error .nothingTaken, sink)
    | (.ok (n + 1), sink) => writeAll sink (bytes.drop n)
termination_by bytes.length
decreasing_by
  simp only [List.length_drop, List.length_cons]
  omega

inductive WhenFull where
  | fails
  | takesNothing
deriving DecidableEq, Repr

structure MemorySink where
  taken : Bytes
  room : Option Nat
  piece : Option Nat
  whenFull : WhenFull
  flushFails : Bool
deriving DecidableEq, Repr

namespace MemorySink

def unlimited : MemorySink := ⟨[], none, none, .fails, false⟩

def share (sink : MemorySink) (length : Nat) : Nat :=
  let length := match sink.piece with
    | some piece => min length piece
    | none => length
  match sink.room with
  | some room => min length (room - sink.taken.length)
  | none => length

def write (sink : MemorySink) (bytes : Bytes) : Except Transport Nat × MemorySink :=
  let n := sink.share bytes.length
  if n = 0 ∧ sink.whenFull = .fails then (.error .brokenPipe, sink)
  else (.ok n, { sink with taken := sink.taken ++ bytes.take n })

def flush (sink : MemorySink) : Except Transport Unit × MemorySink :=
  (if sink.flushFails then .error .brokenPipe else .ok (), sink)

def close (sink : MemorySink) : MemorySink :=
  { sink with room := some sink.taken.length, whenFull := .fails }

end MemorySink

instance : Sink MemorySink where
  write := MemorySink.write
  flush := MemorySink.flush

end HeapScope
