import HeapScope.Proofs.Server.Numbering
import HeapScope.Proofs.Server.Succession

namespace HeapScope

variable {σ : Type}

namespace Attachment

theorem detach_connected {attachment : Attachment} {generation : Nat}
    (stays : (attachment.detach generation).connected = true) : attachment.connected = true := by
  unfold detach at stays
  split at stays
  · cases stays
  · exact stays

theorem attach_detach (attachment : Attachment) :
    attachment.attach.detach (attachment.generation + 1) =
      ⟨false, attachment.generation + 1, false, 0, []⟩ := if_pos rfl

theorem pass_cases {attachment passed : Attachment} (passes : attachment.pass? = some passed) :
    (attachment.connected = true → attachment.paused = false) ∧ passed = attachment ∨
    attachment.connected = true ∧ attachment.paused = true ∧ 0 < attachment.steps ∧
      passed = { attachment with steps := attachment.steps - 1 } := by
  by_cases free : (!attachment.connected || !attachment.paused) = true
  · left
    rw [pass?, if_pos free] at passes
    refine ⟨fun connected => ?_, (Option.some.inj passes).symm⟩
    simpa [connected] using free
  · rw [pass?, if_neg free] at passes
    by_cases granted : 0 < attachment.steps
    · right
      rw [if_pos granted] at passes
      simpa [← Option.some.inj passes, granted] using free
    · simp [granted] at passes

end Attachment

def Server.commandOf? (server : Server σ) (generation : Nat) : Option Command :=
  (server.readers.find? (·.generation = generation)).bind fun reader =>
    match reader.move with
    | .apply command _ => some command
    | _ => none

theorem Server.reader_move_turns (server : Server σ) (generation : Nat) :
    (∃ command, server.commandOf? generation = some command ∧
      (server.readerMove generation).attachment = server.attachment.apply command) ∨
    server.commandOf? generation = none ∧
      ((server.readerMove generation).attachment = server.attachment ∨
        (server.readerMove generation).attachment = server.attachment.detach generation) := by
  cases found : server.readers.find? (·.generation = generation) with
  | none => simp [commandOf?, readerMove, found]
  | some reader =>
    cases moves : reader.move with
    | apply command next => simp [commandOf?, readerMove, found, moves]
    | wait => simp [commandOf?, readerMove, found, moves]
    | decode next => simp [commandOf?, readerMove, found, moves]
    | leave => simp [commandOf?, readerMove, found, moves]

theorem Server.dismiss_keeps [Sink σ] (server : Server σ) :
    server.dismissClients.attachment = server.attachment ∧
      server.dismissClients.acceptor = server.acceptor ∧
      server.dismissClients.address = server.address := by
  obtain ⟨readers, same⟩ := server.dismiss_clients_eq
  rw [same]
  exact ⟨rfl, rfl, rfl⟩

def Step.Unread (step : Step σ) : Prop :=
  ∃ cause, step = .happens (.accept (.error cause)) ∨
    ∃ machine, step = .start machine ∧ machine.reader = .error cause

namespace World

def applied? (world : World σ) : Step σ → Option Command
  | .happens (.read generation) => world.server.commandOf? generation
  | _ => none

def spends (world : World σ) : Step σ → Bool
  | .proceed =>
    match world.progress with
    | .waiting =>
      world.server.attachment.connected && world.server.attachment.paused &&
        decide (0 < world.server.attachment.steps)
    | _ => false
  | _ => false

def Opens (world : World σ) (step : Step σ) : Prop :=
  ((∃ reader, step = .happens (.accept reader)) ∧
    ∃ recorder, world.server.acceptor = some (.greeted recorder)) ∨
  (∃ machine, step = .start machine) ∧ world.server.address = none

inductive Turns (world : World σ) (step : Step σ) (next : World σ) : Prop where
  | rests (same : next.server.attachment = world.server.attachment)
      (silent : world.applied? step = none) (keeps : world.spends step = false)
  | attaches (recorder : Recorder σ) (opens : world.Opens step)
      (attached : next.server.attachment = world.server.attachment.attach)
      (waits : next.server.incoming = some ⟨world.server.attachment.generation + 1, recorder⟩)
  | withdraws (opens : world.Opens step) (unread : step.Unread)
      (withdrawn : next.server.attachment =
        world.server.attachment.attach.detach (world.server.attachment.generation + 1))
  | leaves (generation : Nat)
      (left : next.server.attachment = world.server.attachment.detach generation)
      (silent : world.applied? step = none) (keeps : world.spends step = false)
  | applies (command : Command) (comes : world.applied? step = some command)
      (applied : next.server.attachment = world.server.attachment.apply command)
  | passes (proceeds : step = .proceed) (waits : world.progress = .waiting)
      (lets : world.server.attachment.pass? = some next.server.attachment)
  | closes (closed : next.server.attachment = world.server.attachment.close)
      (silent : world.applied? step = none) (keeps : world.spends step = false)

variable {world next : World σ} {step : Step σ}

theorem opens_silent (opens : world.Opens step) : world.applied? step = none := by
  rcases opens with ⟨⟨reader, rfl⟩, _⟩ | ⟨⟨machine, rfl⟩, _⟩
  · rfl
  · rfl

theorem spends_waiting (waits : world.progress = .waiting) :
    world.spends .proceed =
      (world.server.attachment.connected && world.server.attachment.paused &&
        decide (0 < world.server.attachment.steps)) := by
  simp [spends, waits]

theorem spends_elsewhere (elsewhere : world.progress ≠ .waiting) : world.spends step = false := by
  cases step with
  | proceed => cases progress : world.progress <;> simp_all [spends]
  | _ => rfl

theorem spends_blocked (waits : world.progress = .waiting)
    (blocked : world.server.attachment.pass? = none) : world.spends .proceed = false := by
  rw [spends_waiting waits]
  by_cases free : (!world.server.attachment.connected || !world.server.attachment.paused) = true
  · simp [Attachment.pass?, free] at blocked
  · by_cases granted : 0 < world.server.attachment.steps
    · simp [Attachment.pass?, free, granted] at blocked
    · simp [granted]

theorem turns_attached (turns : world.Turns step next) :
    (∃ recorder, world.Opens step ∧
      next.server.attachment = world.server.attachment.attach ∧
      next.server.incoming = some ⟨world.server.attachment.generation + 1, recorder⟩) ∨
    (world.Opens step ∧ step.Unread ∧ next.server.attachment =
      world.server.attachment.attach.detach (world.server.attachment.generation + 1)) ∨
    next.server.attachment.generation = world.server.attachment.generation ∧
      (next.server.attachment.connected = true → world.server.attachment.connected = true) := by
  cases turns with
  | rests same => simp [same]
  | attaches recorder opens attached waits => exact .inl ⟨recorder, opens, attached, waits⟩
  | withdraws opens unread withdrawn => exact .inr (.inl ⟨opens, unread, withdrawn⟩)
  | leaves generation left =>
    rw [left]
    exact .inr (.inr ⟨Attachment.detach_generation _ _, Attachment.detach_connected⟩)
  | applies command comes applied =>
    simp [applied, (Attachment.apply_keeps _ command).1, (Attachment.apply_keeps _ command).2]
  | passes proceeds waits lets =>
    rcases Attachment.pass_cases lets with ⟨_, same⟩ | ⟨_, _, _, same⟩ <;> simp [same]
  | closes closed => simp [closed, Attachment.close]

variable [Sink σ]

theorem tell_turns (world : World σ) (call : ReportCall) :
    (world.tell call).2.server.attachment = world.server.attachment ∨
      ∃ generation,
        (world.tell call).2.server.attachment = world.server.attachment.detach generation := by
  change (world.server.withWriter _).2.attachment = _ ∨
    ∃ generation, (world.server.withWriter _).2.attachment = _
  rcases world.server.with_writer_cases (·.perform call) with
    ⟨_, done⟩ | ⟨client, recorder, _, ⟨_, done⟩ | ⟨_, _, _, done⟩ | ⟨_, _, _, done⟩⟩
  · simp [done]
  · simp [done]
  · exact .inr ⟨client.generation, by rw [done]; rfl⟩
  · simp [done]

theorem turns_told (call : ReportCall) (same : next.server = (world.tell call).2.server)
    (silent : world.applied? step = none) (keeps : world.spends step = false) :
    world.Turns step next := by
  rcases tell_turns world call with kept | ⟨generation, left⟩
  · exact .rests (by rw [same, kept]) silent keeps
  · exact .leaves generation (by rw [same, left]) silent keeps

theorem call_turns (call : ReportCall) : world.Turns (.call call) (world.call call).2 := by
  have made := world.call_called call
  generalize world.call call = result at made ⊢
  cases made with
  | refused opening unknown => exact .rests rfl rfl rfl
  | taken opening registered => exact .rests rfl rfl rfl
  | started now => exact .rests rfl rfl rfl
  | stopped now =>
    refine .rests ?_ rfl rfl
    cases running : world.server.timer <;> simp [Server.stopTimer, running]
  | told call handsOn => exact turns_told call rfl rfl rfl

theorem proceed_turns (world : World σ) : world.Turns .proceed world.proceed.2 := by
  by_cases waits : world.progress = .waiting
  · cases look : world.server.attachment.pass? with
    | some attachment => exact .passes rfl waits (by simp [proceed, waits, Server.recheck, look])
    | none =>
      refine .rests ?_ rfl (spends_blocked waits look)
      simp [proceed, waits, Server.recheck, look]
  · have keeps : world.spends .proceed = false := spends_elsewhere waits
    have move := world.proceed_proceeds
    generalize world.proceed = result at move ⊢
    cases move with
    | rests => exact .rests rfl rfl keeps
    | adopts taken opening is =>
      refine .rests ?_ rfl keeps
      cases taken with
      | none => rfl
      | some client => by_cases current : world.server.isCurrent client <;> simp [Server.adopt, current]
    | begins event space tileCount is => exact turns_told _ rfl rfl keeps
    | hears event is => exact .rests rfl rfl keeps
    | passes event is => exact .rests rfl rfl keeps
    | fails event is error after told =>
      exact turns_told (.safepoint event) (by rw [told]) rfl keeps
    | tells event is after told =>
      exact turns_told (.safepoint event) (by rw [told]) rfl keeps
    | resumes attachment is lets => exact absurd is waits

omit [Sink σ] in
theorem welcome_turns (server : Server σ) (recorder : Recorder σ) (reader : Except Transport Unit)
    (opens : world.Opens step) (unread : ∀ cause, reader = .error cause → step.Unread)
    (same : server.attachment = world.server.attachment)
    (attachment : next.server.attachment = (server.welcome recorder reader).2.attachment)
    (incoming : next.server.incoming = (server.welcome recorder reader).2.incoming) :
    world.Turns step next := by
  cases reader with
  | ok done =>
    refine .attaches recorder opens (attachment.trans ?_) (incoming.trans ?_)
    · exact congrArg Attachment.attach same
    · rw [← same]
      rfl
  | error cause =>
    refine .withdraws opens (unread cause rfl) (attachment.trans ?_)
    rw [← same]
    rfl

theorem accept_turns (world : World σ) (reader : Except Transport Unit) :
    world.Turns (.happens (.accept reader)) (world.happen (.accept reader)) := by
  have moves := world.server.acceptor_moves reader
  rw [happen]
  generalize world.server.acceptorMove reader = next at moves ⊢
  cases moves with
  | @welcomes recorder greeted =>
    exact welcome_turns world.server recorder reader (.inl ⟨⟨reader, rfl⟩, recorder, greeted⟩)
      (fun cause failed => ⟨cause, .inl (by rw [failed])⟩) rfl rfl rfl
  | _ => exact .rests rfl rfl rfl

theorem start_turns (machine : Server.Machine σ) :
    world.Turns (.start machine) { world with server := (world.server.start machine).2 } := by
  have moves {next : World σ} (address : SocketAddress) (unstarted : world.server.address = none)
      (attachment : next.server.attachment =
        (Server.attend { world.server with address := some address } machine).2.attachment)
      (incoming : next.server.incoming =
        (Server.attend { world.server with address := some address } machine).2.incoming) :
      world.Turns (.start machine) next := by
    rcases Server.attend_cases { world.server with address := some address } machine with
      nobody | ⟨_, recorder, _, _, attended⟩
    · exact .rests (by rw [attachment, nobody]) rfl rfl
    · rw [attended] at attachment incoming
      exact welcome_turns { world.server with address := some address } recorder machine.reader
        (.inr ⟨⟨machine, rfl⟩, unstarted⟩) (fun cause failed => ⟨cause, .inr ⟨machine, rfl, failed⟩⟩)
        rfl attachment incoming
  rcases world.server.start_cases machine with same | ⟨unstarted, address, fails | listens⟩
  · exact .rests (by simp [same]) rfl rfl
  · exact moves address unstarted (by rw [fails]) (by rw [fails])
  · exact moves address unstarted (by rw [listens]) (by rw [listens])

theorem happen_turns (happening : Happening σ) :
    world.Turns (.happens happening) (world.happen happening) := by
  cases happening with
  | arrive arrival =>
    refine .rests ?_ rfl rfl
    by_cases listens : world.server.isListening = true <;> simp [happen, Server.arrive, listens]
  | accept reader => exact accept_turns world reader
  | receive generation bytes => exact .rests rfl rfl rfl
  | endData generation => exact .rests rfl rfl rfl
  | read generation =>
    rcases world.server.reader_move_turns generation with
      ⟨command, comes, applied⟩ | ⟨silent, same | left⟩
    · exact .applies command comes applied
    · exact .rests same silent rfl
    · exact .leaves generation left silent rfl
  | change generation change => exact .rests rfl rfl rfl

theorem shut_turns (move : Closing) : world.Turns (.closing move) (world.shut move) := by
  cases move with
  | dismiss => exact .rests world.server.dismiss_keeps.1 rfl rfl
  | raise => exact .rests rfl rfl rfl
  | close => exact .closes rfl rfl rfl
  | wake =>
    refine .rests ?_ rfl rfl
    by_cases listens : world.server.isListening = true <;>
      simp [shut, Server.wakeAcceptor, Server.arrive, listens]
  | join =>
    refine .rests ?_ rfl rfl
    simp only [shut, Server.joinAcceptor?]
    split <;> rfl

theorem step_turns (world : World σ) (step : Step σ) : world.Turns step (world.step step).2 := by
  have busy (step : Step σ) (silent : world.applied? step = none) (keeps : world.spends step = false) :
      world.Turns step world := .rests rfl silent keeps
  cases step with
  | call call =>
    by_cases ready : world.progress.isReady = true
    · simpa [World.step, ready] using call_turns call
    · simpa [World.step, ready] using busy (.call call) rfl rfl
  | proceed => exact proceed_turns world
  | start machine =>
    by_cases ready : world.progress.isReady = true
    · simpa [World.step, ready] using start_turns machine
    · simpa [World.step, ready] using busy (.start machine) rfl rfl
  | closing move =>
    by_cases ready : world.progress.isReady = true
    · simpa [World.step, ready] using shut_turns move
    · simpa [World.step, ready] using busy (.closing move) rfl rfl
  | happens happening => exact happen_turns happening

end World

end HeapScope
