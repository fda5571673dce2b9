import HeapScope.Command

/- What the threads of a server share about its client: whether one is attached, whether it has paused the
   collector, how many steps it has granted, and the events it does not want to hear of. Clients are
   numbered as they attach, so that one that is gone cannot be taken for its successor. -/
namespace HeapScope

structure Attachment where
  connected : Bool
  generation : Nat
  paused : Bool
  steps : Nat
  muted : List EventId
deriving DecidableEq, Repr

namespace Attachment

def start : Attachment := ⟨false, 0, false, 0, []⟩

def mostSteps : Nat := 2 ^ 32 - 1

def attach (attachment : Attachment) : Attachment := ⟨true, attachment.generation + 1, false, 0, []⟩

-- A client leaves; nothing happens if it is not the one that attached last.
def detach (attachment : Attachment) (generation : Nat) : Attachment :=
  if attachment.generation = generation then
    { attachment with connected := false, paused := false, steps := 0 }
  else attachment

@[simp] theorem detach_generation (attachment : Attachment) (generation : Nat) :
    (attachment.detach generation).generation = attachment.generation := by
  unfold detach
  split <;> rfl

def close (attachment : Attachment) : Attachment :=
  { attachment with connected := false, paused := false }

def mute (attachment : Attachment) (event : EventId) : Attachment :=
  { attachment with muted := event :: attachment.muted.filter (· ≠ event) }

def unmute (attachment : Attachment) (event : EventId) : Attachment :=
  { attachment with muted := attachment.muted.filter (· ≠ event) }

def apply (attachment : Attachment) : Command → Attachment
  | .play => { attachment with paused := false, steps := 0 }
  | .pause => { attachment with paused := true }
  | .step =>
    if attachment.paused then { attachment with steps := min (attachment.steps + 1) mostSteps }
    else attachment
  | .enableEvent event enabled =>
    if enabled then attachment.unmute event else attachment.mute event
  | _ => attachment

def hears (attachment : Attachment) (event : EventId) : Bool :=
  attachment.connected && !attachment.muted.contains event

def isPaused (attachment : Attachment) : Bool := attachment.connected && attachment.paused

def isCurrent (attachment : Attachment) (generation : Nat) : Bool :=
  attachment.connected && generation = attachment.generation

def pass? (attachment : Attachment) : Option Attachment :=
  if !attachment.connected || !attachment.paused then some attachment
  else if 0 < attachment.steps then some { attachment with steps := attachment.steps - 1 }
  else none

end Attachment

end HeapScope
