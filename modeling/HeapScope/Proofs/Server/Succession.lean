import HeapScope.Proofs.Frame.Splitting
import HeapScope.Proofs.Server.World
import HeapScope.Proofs.Wire.Fields

/- What is left of a client that has been succeeded by another one. Its reader may still hold commands
   that it has decoded. When it leaves, it leaves its own place only, but its commands are applied to
   whoever is attached (`reader_move_late`). -/
namespace HeapScope

def Command.steers : Command → Bool
  | .play | .pause | .step | .enableEvent _ _ => true
  | _ => false

namespace Attachment

theorem apply_keeps (attachment : Attachment) (command : Command) :
    (attachment.apply command).connected = attachment.connected ∧
      (attachment.apply command).generation = attachment.generation := by
  cases command with
  | step =>
    rw [apply]
    split <;> exact ⟨rfl, rfl⟩
  | enableEvent event enabled => cases enabled <;> exact ⟨rfl, rfl⟩
  | _ => exact ⟨rfl, rfl⟩

theorem apply_idle (attachment : Attachment) {command : Command} (idle : command.steers = false) :
    attachment.apply command = attachment := by
  cases command with
  | play | pause | step | enableEvent => cases idle
  | _ => rfl

theorem apply_all_keeps (commands : List Command) (attachment : Attachment) :
    (commands.foldl apply attachment).connected = attachment.connected ∧
      (commands.foldl apply attachment).generation = attachment.generation := by
  induction commands generalizing attachment with
  | nil => exact ⟨rfl, rfl⟩
  | cons command commands ih =>
    obtain ⟨connected, generation⟩ := ih (attachment.apply command)
    exact ⟨connected.trans (attachment.apply_keeps command).1,
      generation.trans (attachment.apply_keeps command).2⟩

theorem apply_all_idle (commands : List Command) (attachment : Attachment)
    (idle : ∀ command ∈ commands, command.steers = false) :
    commands.foldl apply attachment = attachment := by
  induction commands with
  | nil => rfl
  | cons command commands ih =>
    rw [List.foldl_cons, apply_idle attachment (idle command List.mem_cons_self)]
    exact ih fun other member => idle other (List.mem_cons_of_mem command member)

end Attachment

namespace ClientReader

-- The commands that a reader can still come to, unless more bytes arrive.
def due (reader : ClientReader) : List Command :=
  reader.commands ++ reader.splitter.drain.flatMap fun result => result.toOption.getD []

theorem apply_due {reader next : ClientReader} {command : Command}
    (moves : reader.move = .apply command next) : reader.due = command :: next.due := by
  unfold move at moves
  split at moves
  · cases moves
  · rename_i _ first commands _ held
    cases moves
    simp only [due, held, List.cons_append]
  · split at moves
    · cases moves
    · split at moves <;> cases moves
    · cases moves

theorem decode_due {reader next : ClientReader} (moves : reader.move = .decode next) :
    next.due = reader.due := by
  unfold move at moves
  split at moves
  · cases moves
  · cases moves
  · rename_i held
    split at moves
    · cases moves
    · split at moves <;> cases moves
    · rename_i commands splitter answer
      cases moves
      rw [due, due, held, FrameSplitter.drain_takes_next answer]
      rfl

end ClientReader

namespace Server

variable {σ : Type}

def Late (server : Server σ) (command : Command) : Prop :=
  ∃ reader ∈ server.readers, reader.generation ≠ server.attachment.generation ∧ command ∈ reader.due

theorem late_replaced {server : Server σ} {reader next : ClientReader} (member : reader ∈ server.readers)
    (late : reader.generation ≠ server.attachment.generation)
    (due : ∀ command ∈ next.due, command ∈ reader.due) {attachment : Attachment}
    (kept : attachment.generation = server.attachment.generation) {command : Command}
    (later : Late { server with attachment, readers := server.readers.map fun other =>
      if other.generation = reader.generation then next else other } command) :
    server.Late command := by
  obtain ⟨found, is, earlier, comes⟩ := later
  obtain ⟨old, there, rfl⟩ := List.mem_map.mp is
  by_cases own : old.generation = reader.generation
  · rw [if_pos own] at comes
    exact ⟨reader, member, late, due command comes⟩
  · rw [if_neg own] at earlier comes
    exact ⟨old, there, kept ▸ earlier, comes⟩

theorem reader_move_late (server : Server σ) (generation : Nat)
    (late : generation ≠ server.attachment.generation) :
    let next := server.readerMove generation
    (next.attachment = server.attachment ∨
      ∃ command, server.Late command ∧ next.attachment = server.attachment.apply command) ∧
    ∀ command, next.Late command → server.Late command := by
  intro next
  cases found : server.readers.find? (·.generation = generation) with
  | none =>
    have rests : next = server := by simp only [next, readerMove, found]
    rw [rests]
    exact ⟨.inl rfl, fun _ later => later⟩
  | some reader =>
    have member := List.mem_of_find?_eq_some found
    obtain rfl : reader.generation = generation := by simpa using List.find?_some found
    cases moves : reader.move with
    | wait =>
      have rests : next = server := by simp only [next, readerMove, found, moves]
      rw [rests]
      exact ⟨.inl rfl, fun _ later => later⟩
    | decode after =>
      have due := ClientReader.decode_due moves
      simp only [next, readerMove, found, moves]
      exact ⟨.inl trivial, fun _ => late_replaced member late (fun _ comes => due ▸ comes) rfl⟩
    | apply command after =>
      have due := ClientReader.apply_due moves
      have held : server.Late command := ⟨reader, member, late, due ▸ List.mem_cons_self⟩
      simp only [next, readerMove, found, moves]
      refine ⟨.inr ⟨command, held, rfl⟩, fun _ => ?_⟩
      exact late_replaced member late (fun _ comes => due ▸ List.mem_cons_of_mem command comes)
        (server.attachment.apply_keeps command).2
    | leave =>
      have stays : server.attachment.detach reader.generation = server.attachment :=
        if_neg (Ne.symm late)
      simp only [next, readerMove, found, moves, stays]
      refine ⟨.inl trivial, fun command => ?_⟩
      rintro ⟨other, remains, earlier, comes⟩
      exact ⟨other, (List.mem_filter.mp remains).1, earlier, comes⟩

theorem reader_moves_late (server : Server σ) (moves : List Nat)
    (late : ∀ generation ∈ moves, generation ≠ server.attachment.generation) :
    ∃ commands : List Command, (∀ command ∈ commands, server.Late command) ∧
      (moves.foldl readerMove server).attachment = commands.foldl Attachment.apply server.attachment := by
  induction moves generalizing server with
  | nil => exact ⟨[], fun _ member => (List.not_mem_nil member).elim, rfl⟩
  | cons generation moves ih =>
    obtain ⟨applied, lateBefore⟩ := server.reader_move_late generation (late generation List.mem_cons_self)
    have others := fun other member => late other (List.mem_cons_of_mem generation member)
    rcases applied with same | ⟨command, comes, same⟩
    · obtain ⟨commands, held, reached⟩ := ih (server.readerMove generation) (same ▸ others)
      exact ⟨commands, fun command member => lateBefore command (held command member), same ▸ reached⟩
    · have kept : (server.readerMove generation).attachment.generation = server.attachment.generation :=
        same ▸ (server.attachment.apply_keeps command).2
      obtain ⟨commands, held, reached⟩ := ih (server.readerMove generation) (kept ▸ others)
      refine ⟨command :: commands, fun other member => ?_, ?_⟩
      · rcases List.mem_cons.mp member with rfl | member
        · exact comes
        · exact lateBefore other (held other member)
      · rw [List.foldl_cons, List.foldl_cons, reached, same]

end Server

variable {σ : Type} [Sink σ]

theorem reads_move (world : World σ) (moves : List Nat) :
    (world.run (moves.map fun generation => .happens (.read generation))).server =
      moves.foldl Server.readerMove world.server := by
  induction moves generalizing world with
  | nil => rfl
  | cons generation moves ih => exact ih (world.happen (.read generation))

theorem late_readers_steer (world : World σ) (moves : List Nat)
    (late : ∀ generation ∈ moves, generation ≠ world.server.attachment.generation) :
    let attachment := world.server.attachment
    let next := (world.run (moves.map fun generation => .happens (.read generation))).server.attachment
    next.connected = attachment.connected ∧ next.generation = attachment.generation ∧
    (∃ commands : List Command, (∀ command ∈ commands, world.server.Late command) ∧
      next = commands.foldl Attachment.apply attachment) ∧
    ((∀ command, world.server.Late command → command.steers = false) → next = attachment) := by
  intro attachment next
  obtain ⟨commands, held, reached⟩ := world.server.reader_moves_late moves late
  have same : next = commands.foldl Attachment.apply attachment :=
    (congrArg Server.attachment (reads_move world moves)).trans reached
  rw [same]
  obtain ⟨connected, generation⟩ := Attachment.apply_all_keeps commands attachment
  refine ⟨connected, generation, ⟨commands, held, rfl⟩, fun idle => ?_⟩
  exact Attachment.apply_all_idle commands attachment fun command member => idle command (held command member)

-- A client lets the collector go on and then pause. Its reader has come to the first of these commands
-- when its connection fails, the collector finds this at a safepoint, and another client attaches.
def succession : List (Step MemorySink) :=
  let attaches : List (Step MemorySink) :=
    .happens (.arrive (.client .unlimited)) :: List.replicate 5 (.happens .accept)
  let safepoint : List (Step MemorySink) := [.call (.safepoint ⟨0⟩), .proceed, .proceed, .proceed, .proceed]
  .start { bind := .ok, first := .error .brokenPipe } :: attaches ++ safepoint ++
    [.happens (.receive 1 [0, 0, 0, 2, 0x81, 0x82]), .happens (.read 1), .happens (.read 1),
      .happens (.change 1 .close)] ++ safepoint ++ attaches

theorem late_reader_detaches_nobody :
    ∃ made : Server MemorySink, Server.make {} ["gc"] = .ok made ∧
      let world := (World.ofServer made).run succession
      (∀ generation ∈ [1, 1, 1], generation ≠ world.server.attachment.generation) ∧
      let next := (world.run ([1, 1, 1].map fun generation => .happens (.read generation))).server.attachment
      next.connected = true ∧ next.generation = 2 := by
  have attached : (Server.make (σ := MemorySink) {} ["gc"]).toOption.any (fun made =>
      let attachment := ((World.ofServer made).run succession).server.attachment
      attachment.connected && decide (attachment.generation = 2)) = true := by decide +kernel
  obtain ⟨made, created, passes⟩ := Wire.except_any_ok attached
  obtain ⟨connected, second⟩ := Bool.and_eq_true_iff.mp passes
  have second := of_decide_eq_true second
  have late : ∀ generation ∈ [1, 1, 1],
      generation ≠ ((World.ofServer made).run succession).server.attachment.generation := by
    rw [second]
    decide
  obtain ⟨still, same, _⟩ := late_readers_steer ((World.ofServer made).run succession) [1, 1, 1] late
  exact ⟨made, created, late, still.trans connected, same.trans second⟩

theorem late_reader_pauses :
    ∃ made : Server MemorySink, Server.make {} ["gc"] = .ok made ∧
      let world := (World.ofServer made).run succession
      world.server.attachment = ⟨true, 2, false, 0, []⟩ ∧
      (world.step (.happens (.read 1))).2.server.attachment = ⟨true, 2, true, 0, []⟩ := by
  have pauses : (Server.make (σ := MemorySink) {} ["gc"]).toOption.any (fun made =>
      let world := (World.ofServer made).run succession
      decide (world.server.attachment = ⟨true, 2, false, 0, []⟩) &&
        decide ((world.step (.happens (.read 1))).2.server.attachment = ⟨true, 2, true, 0, []⟩)) =
        true := by
    decide +kernel
  obtain ⟨made, created, passes⟩ := Wire.except_any_ok pauses
  obtain ⟨calm, paused⟩ := Bool.and_eq_true_iff.mp passes
  exact ⟨made, created, of_decide_eq_true calm, of_decide_eq_true paused⟩

end HeapScope
