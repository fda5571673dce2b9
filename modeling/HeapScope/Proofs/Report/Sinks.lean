import HeapScope.Proofs.Frame.Splitting
import HeapScope.Report.Sink

namespace HeapScope

def Sink.progress : Except Transport Nat → Nat
  | .ok n => n
  | .error _ => 0

structure SinkView (σ : Type) [Sink σ] where
  taken : σ → Bytes
  valid : σ → Prop
  spent : σ → Prop
  write_valid : ∀ sink bytes, valid sink → valid (Sink.write sink bytes).2
  write_taken : ∀ sink bytes, valid sink → taken (Sink.write sink bytes).2 =
    taken sink ++ bytes.take (Sink.progress (Sink.write sink bytes).1)
  write_stops : ∀ sink byte bytes, valid sink →
    Sink.progress (Sink.write sink (byte :: bytes)).1 = 0 → spent (Sink.write sink (byte :: bytes)).2
  write_spent : ∀ sink bytes, valid sink → spent sink →
    Sink.progress (Sink.write sink bytes).1 = 0
  flush_valid : ∀ sink, valid sink → valid (Sink.flush sink).2
  flush_taken : ∀ sink, valid sink → taken (Sink.flush sink).2 = taken sink

namespace SinkView

variable {σ : Type} [Sink σ]

inductive Gave (view : SinkView σ) (sink next : σ) (bytes : Bytes) (failed : Prop) : Prop where
  | whole (fresh : ¬view.spent sink) (taken : view.taken next = view.taken sink ++ bytes)
  | front (because : failed) (front : Bytes) (part : front <+: bytes) (spent : view.spent next)
      (taken : view.taken next = view.taken sink ++ front) (late : view.spent sink → front = [])

theorem write_all_gives (view : SinkView σ) (sink : σ) (byte : UInt8) (bytes : Bytes)
    (usable : view.valid sink) :
    view.valid (Sink.writeAll sink (byte :: bytes)).2 ∧
      ((Sink.writeAll sink (byte :: bytes)).1 = .ok () ∨
        view.spent (Sink.writeAll sink (byte :: bytes)).2) ∧
      view.Gave sink (Sink.writeAll sink (byte :: bytes)).2 (byte :: bytes)
        ((Sink.writeAll sink (byte :: bytes)).1 ≠ .ok ()) := by
  induction count : bytes.length using Nat.strongRecOn generalizing sink byte bytes with
  | ind total ih =>
    have stillUsable := view.write_valid sink (byte :: bytes) usable
    have took := view.write_taken sink (byte :: bytes) usable
    have stops := view.write_stops sink byte bytes usable
    have late := view.write_spent sink (byte :: bytes) usable
    rw [Sink.writeAll]
    generalize Sink.write sink (byte :: bytes) = written at stillUsable took stops late
    obtain ⟨outcome, next⟩ := written
    cases outcome with
    | error cause =>
      exact ⟨stillUsable, .inr (stops rfl),
        .front (by simp) [] List.nil_prefix (stops rfl) took fun _ => rfl⟩
    | ok n =>
      cases n with
      | zero =>
        exact ⟨stillUsable, .inr (stops rfl),
          .front (by simp) [] List.nil_prefix (stops rfl) took fun _ => rfl⟩
      | succ n =>
        have fresh : ¬view.spent sink := fun spent => Nat.succ_ne_zero n (late spent)
        dsimp only [Sink.progress] at took ⊢
        rw [List.take_succ_cons] at took
        cases left : bytes.drop n with
        | nil =>
          have whole : bytes.take n = bytes := by
            rw [← List.append_nil (bytes.take n), ← left, List.take_append_drop]
          rw [whole] at took
          rw [Sink.writeAll]
          exact ⟨stillUsable, .inl rfl, .whole fresh took⟩
        | cons following rest =>
          have cut : bytes.take n ++ following :: rest = bytes := by
            rw [← left, List.take_append_drop]
          have smaller : rest.length < total := by
            have lengths := congrArg List.length left
            rw [List.length_drop, List.length_cons] at lengths
            omega
          obtain ⟨usableAfter, ended, more⟩ :=
            ih rest.length smaller next following rest stillUsable rfl
          refine ⟨usableAfter, ended, ?_⟩
          cases more with
          | whole _ taken =>
            refine .whole fresh ?_
            rw [taken, took, List.append_assoc, List.cons_append, cut]
          | front because front part spent taken =>
            obtain ⟨back, joined⟩ := part
            refine .front because (byte :: bytes.take n ++ front) ⟨back, ?_⟩ spent ?_ fun spent => absurd spent fresh
            · rw [List.cons_append, List.cons_append, List.append_assoc, joined, cut]
            · rw [taken, took, List.append_assoc]

structure Reliable (view : SinkView σ) : Prop where
  unspent : ∀ sink, view.valid sink → ¬view.spent sink
  flushes : ∀ sink, view.valid sink → (Sink.flush sink).1 = .ok ()

end SinkView

namespace MemorySink

theorem share_zero_iff (sink : MemorySink) (length : Nat) :
    sink.share (length + 1) = 0 ↔ sink.share 1 = 0 := by
  obtain ⟨taken, room, piece, whenFull, flushFails⟩ := sink
  cases room <;> cases piece <;> simp only [share] <;> omega

theorem write_progress (sink : MemorySink) (bytes : Bytes) :
    Sink.progress (sink.write bytes).1 = sink.share bytes.length := by
  dsimp only [write]
  split
  · rename_i refused
    exact refused.1.symm
  · rfl

theorem write_next (sink : MemorySink) (bytes : Bytes) :
    (sink.write bytes).2 =
      { sink with taken := sink.taken ++ bytes.take (sink.share bytes.length) } := by
  dsimp only [write]
  split
  · rename_i refused
    rw [refused.1, List.take_zero, List.append_nil]
  · rfl

def view (valid : MemorySink → Prop)
    (closed : ∀ sink taken, valid sink → valid { sink with taken }) : SinkView MemorySink where
  taken := MemorySink.taken
  valid := valid
  spent sink := sink.share 1 = 0
  write_valid sink bytes usable := by
    change valid (sink.write bytes).2
    rw [write_next]
    exact closed sink _ usable
  write_taken sink bytes _ := by
    change (sink.write bytes).2.taken = sink.taken ++ bytes.take (Sink.progress (sink.write bytes).1)
    rw [write_next, write_progress]
  write_stops sink byte bytes _ stopped := by
    change Sink.progress (sink.write (byte :: bytes)).1 = 0 at stopped
    change (sink.write (byte :: bytes)).2.share 1 = 0
    rw [write_progress] at stopped
    rw [write_next, stopped, List.take_zero, List.append_nil]
    exact (share_zero_iff sink bytes.length).mp stopped
  write_spent sink bytes _ full := by
    change Sink.progress (sink.write bytes).1 = 0
    rw [write_progress]
    cases bytes with
    | nil =>
      obtain ⟨taken, room, piece, whenFull, flushFails⟩ := sink
      cases room <;> cases piece <;> simp [share]
    | cons byte bytes => exact (share_zero_iff sink bytes.length).mpr full
  flush_valid _ usable := usable
  flush_taken _ _ := rfl

def anyView : SinkView MemorySink := view (fun _ => True) fun _ _ _ => trivial

@[simp] theorem any_view_taken (sink : MemorySink) : anyView.taken sink = sink.taken := rfl

def NeverFull (sink : MemorySink) : Prop :=
  sink.room = none ∧ sink.piece ≠ some 0 ∧ sink.flushFails = false

def openView : SinkView MemorySink := view NeverFull fun _ _ usable => usable

@[simp] theorem open_view_taken (sink : MemorySink) : openView.taken sink = sink.taken := rfl

theorem open_view_reliable : openView.Reliable where
  unspent sink usable full := by
    obtain ⟨taken, room, piece, whenFull, flushFails⟩ := sink
    obtain ⟨noRoom, moves, _⟩ := usable
    change MemorySink.share _ 1 = 0 at full
    cases piece with
    | none => simp_all [share]
    | some n => simp_all [share]
  flushes sink usable := by
    change (sink.flush).1 = .ok ()
    rw [flush, usable.2.2]
    rfl

end MemorySink

end HeapScope
