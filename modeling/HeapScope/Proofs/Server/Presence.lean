import HeapScope.Proofs.Server.Streams
import HeapScope.Proofs.Server.Turns

/- Where the client is that is attached. It waits to be taken over, or it is the writer; between the two
   the collector holds it for a moment (`World.present`). A client attaches only when none is attached,
   for only then is one greeted, and gets the next number. The goodbyes of a shutdown come before it notes
   that nobody is attached any more, so that nothing is said for the time in between (`World.parting`).
   What every step keeps is in `Joined` (`step_joined`). -/
namespace HeapScope

variable {σ : Type}

def Acceptor.isGreeting : Acceptor σ → Bool
  | .greeting _ | .greeted _ => true
  | _ => false

namespace World

def present (world : World σ) : List Nat :=
  (world.progress.taken.toList ++ world.server.incoming.toList ++ world.server.writer.toList).map
    (·.generation)

def parting (world : World σ) (before : Bool) : Step σ → Bool
  | .closing .dismiss => before || world.progress.isReady
  | .closing .close => before && !world.progress.isReady
  | _ => before

def partingAfter [Sink σ] (world : World σ) (before : Bool) : List (Step σ) → Bool
  | [] => before
  | step :: steps => (world.step step).2.partingAfter (world.parting before step) steps

end World

structure Joined (world : World σ) (parting : Bool) : Prop where
  present : parting = false → world.server.attachment.connected = true →
    world.server.attachment.generation ∈ world.present
  greeting : world.server.attachment.connected = true →
    ∀ acceptor, world.server.acceptor = some acceptor → acceptor.isGreeting = false
  unstarted : world.server.address = none →
    world.server.acceptor = none ∧ world.server.attachment.connected = false

structure Lingers (world next : World σ) : Prop where
  attached : next.server.attachment.connected = true →
    world.server.attachment.connected = true ∧
      next.server.attachment.generation = world.server.attachment.generation
  present : next.server.attachment.connected = true →
    world.server.attachment.generation ∈ world.present →
    world.server.attachment.generation ∈ next.present
  acceptor : ∀ acceptor, next.server.acceptor = some acceptor → acceptor.isGreeting = true →
    world.server.acceptor = some acceptor
  address : next.server.address = none →
    world.server.address = none ∧ (world.server.acceptor = none → next.server.acceptor = none)

variable {world next : World σ} {parting : Bool}

theorem lingers_joined (joined : Joined world parting) (lingers : Lingers world next) :
    Joined next parting where
  present complete connected := by
    obtain ⟨before, same⟩ := lingers.attached connected
    rw [same]
    exact lingers.present connected (joined.present complete before)
  greeting connected acceptor is := by
    cases greets : acceptor.isGreeting with
    | false => rfl
    | true =>
      have before := lingers.acceptor acceptor is greets
      have calm := joined.greeting (lingers.attached connected).1 acceptor before
      rw [greets] at calm
      cases calm
  unstarted unbound := by
    obtain ⟨before, idle⟩ := lingers.address unbound
    obtain ⟨none, nobody⟩ := joined.unstarted before
    refine ⟨idle none, ?_⟩
    cases connected : next.server.attachment.connected with
    | false => rfl
    | true =>
      have was := (lingers.attached connected).1
      rw [nobody] at was
      cases was

theorem lingers_aside (attached : next.server.attachment.connected = true →
      world.server.attachment.connected = true ∧
        next.server.attachment.generation = world.server.attachment.generation)
    (present : next.present = world.present) (acceptor : next.server.acceptor = world.server.acceptor)
    (address : next.server.address = world.server.address) : Lingers world next where
  attached := attached
  present _ member := present ▸ member
  acceptor _ is _ := acceptor ▸ is
  address unbound := ⟨address ▸ unbound, fun idle => acceptor ▸ idle⟩

theorem lingers_refl (world : World σ) : Lingers world world :=
  lingers_aside (fun connected => ⟨connected, rfl⟩) rfl rfl rfl

theorem Server.is_current_iff (server : Server σ) (client : Client σ) :
    server.isCurrent client = true ↔
      server.attachment.connected = true ∧ client.generation = server.attachment.generation := by
  simp [Server.isCurrent, Attachment.isCurrent]

theorem Server.adopt_writer (server : Server σ) (taken : Option (Client σ)) :
    (server.adopt taken).writer =
      (taken.filter server.isCurrent).or (server.writer.filter server.isCurrent) := by
  cases taken with
  | none => simp [Server.adopt]
  | some client =>
    by_cases current : server.isCurrent client = true
    · simp [Server.adopt, Option.filter, current]
    · simp [Server.adopt, Option.filter, current]

theorem Server.adopt_aside (server : Server σ) (taken : Option (Client σ)) :
    (server.adopt taken).attachment = server.attachment ∧
      (server.adopt taken).incoming = server.incoming ∧
      (server.adopt taken).acceptor = server.acceptor ∧
      (server.adopt taken).address = server.address := by
  cases taken with
  | none => exact ⟨rfl, rfl, rfl, rfl⟩
  | some client =>
    by_cases current : server.isCurrent client = true
    · simp [Server.adopt, current]
    · simp [Server.adopt, current]

theorem map_numbers (client : Option (Client σ)) (change : Client σ → Client σ)
    (same : ∀ client, (change client).generation = client.generation) :
    (client.map change).toList.map (·.generation) = client.toList.map (·.generation) := by
  cases client with
  | none => rfl
  | some client => simp [same]

theorem mem_present {number : Nat} :
    number ∈ world.present ↔ ∃ client, (world.progress.taken = some client ∨
      world.server.incoming = some client ∨ world.server.writer = some client) ∧
      client.generation = number := by
  simp [World.present, or_and_right, exists_or]

theorem adopt_lingers {taken : Option (Client σ)} {opening : Opening}
    (is : world.progress = .adopting taken opening) :
    Lingers world { world with server := world.server.adopt taken, progress := .adopted opening } := by
  obtain ⟨attachment, incoming, acceptor, address⟩ := world.server.adopt_aside taken
  refine ⟨?_, ?_, ?_, ?_⟩
  · intro connected
    exact ⟨attachment ▸ connected, congrArg Attachment.generation attachment⟩
  · intro connected member
    have stays {client : Client σ} (own : client.generation = world.server.attachment.generation) :
        world.server.isCurrent client = true :=
      (world.server.is_current_iff client).mpr ⟨attachment ▸ connected, own⟩
    obtain ⟨client, place, own⟩ := mem_present.mp member
    refine mem_present.mpr ?_
    rcases place with held | waits | writes
    · rw [is] at held
      have writer : (world.server.adopt taken).writer = some client := by
        rw [Server.adopt_writer, show taken = some client from held]
        simp [stays own]
      exact ⟨client, .inr (.inr writer), own⟩
    · exact ⟨client, .inr (.inl (incoming.trans waits)), own⟩
    · cases other : taken.filter world.server.isCurrent with
      | none =>
        have writer : (world.server.adopt taken).writer = some client := by
          rw [Server.adopt_writer, other, writes]
          simp [stays own]
        exact ⟨client, .inr (.inr writer), own⟩
      | some newer =>
        have writer : (world.server.adopt taken).writer = some newer := by
          rw [Server.adopt_writer, other]
          rfl
        have current := (Option.filter_eq_some_iff.mp other).2
        exact ⟨newer, .inr (.inr writer), ((world.server.is_current_iff newer).mp current).2⟩
  · intro other is greets
    exact acceptor ▸ is
  · intro unbound
    exact ⟨address ▸ unbound, fun idle => acceptor.trans idle⟩

theorem sync_client_attachment (server : Server σ) : server.syncClient.attachment = server.attachment := by
  rw [Server.sync_client_eq]
  exact (Server.adopt_aside { server with incoming := none } server.incoming).1

theorem sync_client_writer (server : Server σ) :
    server.syncClient.writer =
      (server.incoming.filter server.isCurrent).or (server.writer.filter server.isCurrent) := by
  rw [Server.sync_client_eq]
  exact Server.adopt_writer { server with incoming := none } server.incoming

theorem synced_unattached {server : Server σ} (nobody : server.attachment.connected = false) :
    server.syncClient.writer = none := by
  have current : server.isCurrent = fun _ => false := by
    funext client
    simp [Server.isCurrent, Attachment.isCurrent, nobody]
  rw [sync_client_writer, current]
  cases server.incoming <;> cases server.writer <;> simp [Option.filter]

theorem synced_attached {server : Server σ} (attached : server.attachment.connected = true)
    {client : Client σ} (place : server.incoming = some client ∨ server.writer = some client)
    (own : client.generation = server.attachment.generation) :
    ∃ writer, server.syncClient.writer = some writer ∧
      writer.generation = server.attachment.generation := by
  have stays : server.isCurrent client = true := (server.is_current_iff client).mpr ⟨attached, own⟩
  rw [sync_client_writer]
  cases waits : server.incoming.filter server.isCurrent with
  | some newer =>
    have current := (Option.filter_eq_some_iff.mp waits).2
    exact ⟨newer, rfl, ((server.is_current_iff newer).mp current).2⟩
  | none =>
    rcases place with arrived | writes
    · simp [arrived, Option.filter, stays] at waits
    · exact ⟨client, by simp [writes, Option.filter, stays], own⟩

theorem fresh_joined {settings : Settings} {events : List String} {server : Server σ}
    (fresh : server.Fresh settings events) : Joined (World.ofServer server) false := by
  have nobody : (World.ofServer server).server.attachment.connected = false := by
    change server.attachment.connected = false
    rw [fresh.attachment]
    rfl
  refine ⟨fun _ connected => ?_, fun connected => ?_, fun _ => ⟨fresh.acceptor, nobody⟩⟩
  · simp [nobody] at connected
  · simp [nobody] at connected

variable [Sink σ]

theorem tell_lingers (untaken : world.progress.taken = none) (call : ReportCall) :
    Lingers world (world.tell call).2 := by
  have replaced {client : Client σ} (is : world.server.writer = some client) (recorder : Recorder σ)
      (told : (world.tell call).2.server =
        { world.server with writer := some { client with recorder } }) :
      Lingers world (world.tell call).2 := by
    refine lingers_aside ?_ ?_ (by rw [told]) (by rw [told])
    · rw [told]
      exact fun connected => ⟨connected, rfl⟩
    · have ready : (world.tell call).2.progress.taken = none := rfl
      simp [World.present, untaken, ready, told, is]
  rcases world.server.with_writer_cases (·.perform call) with
    ⟨_, done⟩ | ⟨client, recorder, is, ⟨_, done⟩ | ⟨_, _, _, done⟩ | ⟨_, _, _, done⟩⟩
  · have told : (world.tell call).2.server = world.server := by simp [World.tell, done]
    refine lingers_aside ?_ ?_ (by rw [told]) (by rw [told])
    · rw [told]
      exact fun connected => ⟨connected, rfl⟩
    · have ready : (world.tell call).2.progress.taken = none := rfl
      simp [World.present, untaken, ready, told]
  · exact replaced is recorder (by simp [World.tell, done])
  · have told : (world.tell call).2.server =
        Server.dropClient { world.server with writer := some { client with recorder } } := by
      simp [World.tell, done]
    have detached : (world.tell call).2.server.attachment =
        world.server.attachment.detach client.generation := by rw [told]; rfl
    refine ⟨?_, ?_, ?_, ?_⟩
    · rw [detached]
      exact fun connected => ⟨Attachment.detach_connected connected, Attachment.detach_generation _ _⟩
    · intro connected member
      obtain ⟨present, place, own⟩ := mem_present.mp member
      refine mem_present.mpr ⟨present, ?_, own⟩
      rcases place with held | waits | writes
      · rw [untaken] at held
        cases held
      · right
        left
        rw [told]
        exact waits
      · cases is.symm.trans writes
        simp [detached, Attachment.detach, own] at connected
    · rw [told]
      exact fun _ is _ => is
    · rw [told]
      exact fun unbound => ⟨unbound, id⟩
  · exact replaced is recorder.discard (by simp [World.tell, done])

theorem call_lingers (ready : world.progress = .ready) (call : ReportCall) :
    Lingers world (world.call call).2 := by
  have untaken : world.progress.taken = none := by rw [ready]; rfl
  have made := world.call_called call
  generalize world.call call = result at made ⊢
  cases made with
  | refused opening unknown => exact lingers_refl world
  | taken opening registered =>
    refine lingers_aside (fun connected => ⟨connected, rfl⟩) ?_ rfl rfl
    simp [World.present, ready, Progress.taken]
  | started now => exact lingers_aside (fun connected => ⟨connected, rfl⟩) rfl rfl rfl
  | stopped now =>
    cases running : world.server.timer with
    | none =>
      simp only [Server.stopTimer, running]
      exact lingers_refl world
    | some started =>
      simp only [Server.stopTimer, running]
      refine lingers_aside (fun connected => ⟨connected, rfl⟩) ?_ rfl rfl
      cases is : world.server.writer <;> simp [World.present, is]
  | told call handsOn => exact tell_lingers untaken call

theorem proceed_lingers (world : World σ) : Lingers world world.proceed.2 := by
  have move := world.proceed_proceeds
  generalize world.proceed = result at move ⊢
  have onward {progress : Progress σ} (untaken : world.progress.taken = none)
      (taken : progress.taken = none) : Lingers world { world with progress } :=
    lingers_aside (fun connected => ⟨connected, rfl⟩) (by simp [World.present, untaken, taken]) rfl rfl
  cases move with
  | rests => exact lingers_refl world
  | adopts taken opening is => exact adopt_lingers is
  | begins event space tileCount is => exact tell_lingers (by rw [is]; rfl) _
  | hears event is => exact onward (by rw [is]; rfl) rfl
  | passes event is => exact onward (by rw [is]; rfl) rfl
  | fails event is error after told =>
    have lingers : Lingers world (world.tell (.safepoint event)).2 := tell_lingers (by rw [is]; rfl) _
    rw [told] at lingers
    exact lingers
  | tells event is after told =>
    have lingers : Lingers world (world.tell (.safepoint event)).2 := tell_lingers (by rw [is]; rfl) _
    have ready : after.progress = .ready := (congrArg (·.2.progress) told).symm
    rw [told] at lingers
    refine ⟨lingers.attached, ?_, lingers.acceptor, lingers.address⟩
    intro connected member
    have present := lingers.present connected member
    simpa [World.present, ready, Progress.taken] using present
  | resumes passed is lets =>
    refine lingers_aside ?_ ?_ rfl rfl
    · rcases Attachment.pass_cases lets with ⟨_, same⟩ | ⟨_, _, _, same⟩ <;> simp [same]
    · simp [World.present, is, Progress.taken]

theorem happen_lingers (happening : Happening σ) (aside : ∀ reader, happening ≠ .accept reader) :
    Lingers world (world.happen happening) := by
  cases happening with
  | arrive arrival =>
    by_cases listens : world.server.isListening = true
    · simp only [World.happen, Server.arrive, listens, if_true]
      exact lingers_aside (fun connected => ⟨connected, rfl⟩) rfl rfl rfl
    · simp only [World.happen, Server.arrive, listens]
      exact lingers_refl world
  | accept reader => exact absurd rfl (aside reader)
  | receive generation bytes => exact lingers_aside (fun connected => ⟨connected, rfl⟩) rfl rfl rfl
  | endData generation => exact lingers_aside (fun connected => ⟨connected, rfl⟩) rfl rfl rfl
  | read generation =>
    have places := Custody.reader_move_aside world.server generation
    have address : (world.server.readerMove generation).address = world.server.address := by
      obtain ⟨attachment, readers, same⟩ := world.server.reader_move_eq generation
      rw [same]
    refine lingers_aside ?_ ?_ places.acceptor address
    · have turns : world.Turns _ _ := World.happen_turns (.read generation)
      have closed : ¬ world.Opens (.happens (.read generation)) := by
        rintro (⟨⟨_, read⟩, _⟩ | ⟨⟨_, read⟩, _⟩) <;> cases read
      rcases World.turns_attached turns with ⟨_, opens, _⟩ | ⟨opens, _⟩ | ⟨same, connected⟩
      · exact absurd opens closed
      · exact absurd opens closed
      · exact fun stays => ⟨connected stays, same⟩
    · simp [World.present, World.happen, places.incoming, places.writer]
  | change generation change =>
    refine lingers_aside (fun connected => ⟨connected, rfl⟩) ?_ rfl rfl
    have same (client : Client σ) : (if client.generation = generation then
        Server.mapSink change client else client).generation = client.generation := by
      by_cases own : client.generation = generation <;> simp [own, Server.mapSink]
    simp only [World.present, World.happen, Custody.map_taken, List.map_append, map_numbers _ _ same]

omit [Sink σ] in
theorem welcome_joined (server : Server σ) (recorder : Recorder σ) (reader : Except Transport Unit)
    (attachment : next.server.attachment = (server.welcome recorder reader).2.attachment)
    (incoming : next.server.incoming = (server.welcome recorder reader).2.incoming)
    (calm : ∀ acceptor, next.server.acceptor = some acceptor → acceptor.isGreeting = false)
    (bound : next.server.address ≠ none) : Joined next parting := by
  refine ⟨fun _ connected => ?_, fun _ => calm, fun unbound => absurd unbound bound⟩
  cases reader with
  | ok done =>
    refine mem_present.mpr ⟨_, .inr (.inl incoming), ?_⟩
    rw [attachment]
    rfl
  | error cause =>
    have left : next.server.attachment.connected = false := by
      rw [attachment]
      exact congrArg Attachment.connected server.attachment.attach_detach
    rw [left] at connected
    cases connected

-- Nobody is greeted while a client is attached, so that a client that has been greeted finds none.
theorem accept_joined (joined : Joined world parting) (reader : Except Transport Unit) :
    Joined (world.happen (.accept reader)) parting := by
  have moves := world.server.acceptor_moves reader
  rw [World.happen]
  generalize world.server.acceptorMove reader = after at moves ⊢
  have bound {phase : Acceptor σ} (is : world.server.acceptor = some phase) :
      world.server.address ≠ none := by
    intro unbound
    cases is.symm.trans (joined.unstarted unbound).1
  have moved {phase next : Acceptor σ} (is : world.server.acceptor = some phase)
      (backlog : List (Arrival σ))
      (calm : world.server.attachment.connected = true → next.isGreeting = false) :
      Joined { world with server := { world.server with backlog, acceptor := some next } } parting :=
    ⟨joined.present, fun connected other same => Option.some.inj same ▸ calm connected,
      fun unbound => absurd unbound (bound is)⟩
  cases moves with
  | rests => exact joined
  | accepts is | stops is | admits is | misses is | refuses is | loses is =>
    exact moved is _ fun _ => rfl
  | turns is free =>
    refine moved is _ fun connected => ?_
    cases free.symm.trans connected
  | @greets sink recorder is =>
    exact moved is _ fun connected => joined.greeting connected (.greeting sink) is
  | @welcomes recorder greeted =>
    refine welcome_joined world.server recorder reader rfl rfl ?_ ?_
    · rintro _ ⟨⟩
      rfl
    · exact (world.server.welcome_aside recorder reader).2.2 ▸ bound greeted

theorem start_joined (joined : Joined world parting) (machine : Server.Machine σ) :
    Joined { world with server := (world.server.start machine).2 } parting := by
  rcases world.server.start_cases machine with same | ⟨unstarted, address, next⟩
  · rw [same]
    exact joined
  obtain ⟨idle, nobody⟩ := joined.unstarted unstarted
  let bound : Server σ := { world.server with address := some address }
  have attended : Joined { world with server := (bound.attend machine).2 } parting ∧
      (bound.attend machine).2.address ≠ none := by
    rcases bound.attend_cases machine with nothing | ⟨_, recorder, _, _, admitted⟩
    · rw [nothing]
      exact ⟨⟨joined.present, joined.greeting, nofun⟩, nofun⟩
    · obtain ⟨_, acceptor, listens⟩ := bound.welcome_aside recorder machine.reader
      rw [admitted]
      refine ⟨welcome_joined bound recorder machine.reader rfl rfl ?_ ?_, ?_⟩
      · intro other greets
        cases (acceptor.trans idle).symm.trans greets
      · simp [listens, bound]
      · simp [listens, bound]
  rcases next with fails | listens
  · rw [fails]
    exact attended.1
  · rw [listens]
    refine ⟨attended.1.present, ?_, fun unbound => absurd unbound attended.2⟩
    rintro _ _ ⟨⟩
    rfl

theorem shut_joined (joined : Joined world parting) (ready : world.progress.isReady = true)
    (move : Closing) : Joined (world.shut move) (world.parting parting (.closing move)) := by
  cases move with
  | dismiss =>
    obtain ⟨attachment, acceptor, address⟩ := world.server.dismiss_keeps
    refine ⟨?_, ?_, ?_⟩
    · intro complete
      simp [World.parting, ready] at complete
    · intro connected other is
      exact joined.greeting (attachment ▸ connected) other (acceptor ▸ is)
    · intro unbound
      obtain ⟨idle, nobody⟩ := joined.unstarted (address ▸ unbound)
      exact ⟨acceptor.trans idle, (congrArg Attachment.connected attachment).trans nobody⟩
  | raise => exact lingers_joined joined (lingers_aside (fun connected => ⟨connected, rfl⟩) rfl rfl rfl)
  | close =>
    refine ⟨?_, ?_, ?_⟩
    · intro _ connected
      cases connected
    · intro connected
      cases connected
    · intro unbound
      exact ⟨(joined.unstarted unbound).1, rfl⟩
  | wake => exact lingers_joined joined (happen_lingers (.arrive .wakeUp) (by simp))
  | join =>
    have lingers : Lingers world (world.shut .join) := by
      simp only [World.shut, Server.joinAcceptor?]
      split
      · exact lingers_refl world
      · refine ⟨fun connected => ⟨connected, rfl⟩, fun _ member => member, ?_, ?_⟩
        · intro acceptor is
          cases is
        · exact fun unbound => ⟨unbound, fun _ => rfl⟩
      · exact lingers_refl world
    exact lingers_joined joined lingers

theorem step_joined (joined : Joined world parting) (step : Step σ) :
    Joined (world.step step).2 (world.parting parting step) := by
  cases step with
  | call call =>
    by_cases ready : world.progress.isReady = true
    · simp only [World.step, ready, if_true]
      exact lingers_joined joined (call_lingers (Progress.ready_of_is_ready ready) call)
    · simp only [World.step, ready]
      exact joined
  | proceed => exact lingers_joined joined (proceed_lingers world)
  | start machine =>
    by_cases ready : world.progress.isReady = true
    · simp only [World.step, ready, if_true]
      exact start_joined joined machine
    · simp only [World.step, ready]
      exact joined
  | closing move =>
    by_cases ready : world.progress.isReady = true
    · simp only [World.step, ready, if_true]
      exact shut_joined joined ready move
    · simp only [World.step, ready]
      cases move <;> simpa [World.parting, ready] using joined
  | happens happening =>
    by_cases accepts : ∃ reader, happening = .accept reader
    · obtain ⟨reader, rfl⟩ := accepts
      exact accept_joined joined reader
    · exact lingers_joined joined (happen_lingers happening (not_exists.mp accepts))

theorem run_joined (joined : Joined world parting) (steps : List (Step σ)) :
    Joined (world.run steps) (world.partingAfter parting steps) := by
  induction steps generalizing world parting with
  | nil => exact joined
  | cons step steps ih => exact ih (step_joined joined step)

theorem opening_syncs (ready : world.progress = .ready) {opening : Opening}
    (registered : world.server.isRegistered opening.event = true) :
    world.run [.call opening.call, .proceed] =
      { world with server := world.server.syncClient, progress := .adopted opening } := by
  have called : world.call opening.call = world.take opening := by cases opening <;> rfl
  have taken := World.take_registered world opening registered
  simp [World.run, World.step, ready, Progress.isReady, called, taken, World.proceed, Server.sync_client_eq]

theorem run_grows (world : World σ) (steps : List (Step σ)) :
    world.server.attachment.generation ≤ (world.run steps).server.attachment.generation := by
  induction steps generalizing world with
  | nil => exact Nat.le_refl _
  | cons step steps ih => exact Nat.le_trans (step_goes world step).shifts.grows (ih _)

theorem joined_attaches (joined : Joined world parting) (step : Step σ) :
    let next := (world.step step).2
    next.server.attachment.generation = world.server.attachment.generation ∧
      (next.server.attachment.connected = true → world.server.attachment.connected = true) ∨
    world.server.attachment.connected = false ∧
      (next.server.attachment = world.server.attachment.attach ∧
        (∃ recorder, next.server.incoming = some ⟨world.server.attachment.generation + 1, recorder⟩) ∨
      step.Unread ∧ next.server.attachment =
        world.server.attachment.attach.detach (world.server.attachment.generation + 1)) := by
  intro next
  have nobody (opens : world.Opens step) : world.server.attachment.connected = false := by
    rcases opens with ⟨_, greeted, phase⟩ | ⟨_, unbound⟩
    · cases connected : world.server.attachment.connected with
      | false => rfl
      | true => cases joined.greeting connected _ phase
    · exact (joined.unstarted unbound).2
  rcases World.turns_attached (world.step_turns step) with
    ⟨recorder, opens, attached, waits⟩ | ⟨opens, unread, withdrawn⟩ | stays
  · exact .inr ⟨nobody opens, .inl ⟨attached, recorder, waits⟩⟩
  · exact .inr ⟨nobody opens, .inr ⟨unread, withdrawn⟩⟩
  · exact .inl stays

structure Attends (world : World σ) (parting : Bool) : Prop where
  counted : ∀ client ∈ world.clients, client.generation ≤ world.server.attachment.generation
  rises : ∀ more,
    world.server.attachment.generation ≤ (world.run more).server.attachment.generation
  attaches : ∀ step, let next := (world.step step).2
    next.server.attachment.generation = world.server.attachment.generation ∧
      (next.server.attachment.connected = true → world.server.attachment.connected = true) ∨
    world.server.attachment.connected = false ∧
      (next.server.attachment = world.server.attachment.attach ∧
        (∃ recorder, next.server.incoming = some ⟨world.server.attachment.generation + 1, recorder⟩) ∨
      step.Unread ∧ next.server.attachment =
        world.server.attachment.attach.detach (world.server.attachment.generation + 1))
  others_leave : ∀ generation, generation ≠ world.server.attachment.generation →
    world.applied? (.happens (.read generation)) = none →
    (world.step (.happens (.read generation))).2.server.attachment = world.server.attachment
  others_dropped : ∀ client, world.server.writer = some client →
    client.generation ≠ world.server.attachment.generation →
    world.server.dropClient.attachment = world.server.attachment
  present : parting = false → world.server.attachment.connected = true →
    ∃ client, (world.progress.taken = some client ∨ world.server.incoming = some client ∨
      world.server.writer = some client) ∧ client.generation = world.server.attachment.generation
  begins : parting = false → world.progress = .ready → ∀ opening : Opening,
    world.server.isRegistered opening.event = true →
    let begun := world.run [.call opening.call, .proceed]
    begun.progress = .adopted opening ∧ begun.server = world.server.syncClient ∧
      begun.server.attachment = world.server.attachment ∧
      (world.server.attachment.connected = true → ∃ client, begun.server.writer = some client ∧
        client.generation = world.server.attachment.generation) ∧
      (world.server.attachment.connected = false → begun.server.writer = none)

theorem attached_client_present (settings : Settings) (events : List String)
    (spaces : List SpaceDescriptor) (made server : Server σ)
    {build : Build} (created : Server.make settings events build = .ok made)
    (registered : Channel.addSpaces made spaces = .ok server) (steps : List (Step σ)) :
    Attends ((World.ofServer server).run steps) ((World.ofServer server).partingAfter false steps) := by
  have fresh := Server.add_spaces_fresh (Server.make_fresh created).1 registered
  have joined := run_joined (fresh_joined fresh) steps
  have numbered := run_numbered (fresh_numbered fresh) steps
  generalize (World.ofServer server).run steps = world at joined numbered ⊢
  generalize (World.ofServer server).partingAfter false steps = parting at joined ⊢
  refine
    { counted := ?_, rises := run_grows world, attaches := joined_attaches joined, others_leave := ?_,
      others_dropped := ?_, present := ?_, begins := ?_ }
  · intro client member
    exact numbered.counted _ (List.mem_map_of_mem member)
  · intro generation other silent
    rcases world.server.reader_move_turns generation with ⟨command, comes, _⟩ | ⟨_, same | left⟩
    · cases silent.symm.trans comes
    · exact same
    · exact left.trans (if_neg (Ne.symm other))
  · intro client writes other
    simp only [Server.dropClient, writes]
    exact if_neg (Ne.symm other)
  · intro complete connected
    exact mem_present.mp (joined.present complete connected)
  · intro complete ready opening known begun
    have syncs : begun = _ := opening_syncs ready known
    rw [syncs]
    refine ⟨rfl, rfl, sync_client_attachment _, fun connected => ?_, fun nobody => synced_unattached nobody⟩
    obtain ⟨client, place, own⟩ := mem_present.mp (joined.present complete connected)
    refine synced_attached connected ?_ own
    rcases place with held | place
    · rw [ready] at held
      cases held
    · exact place

-- A client is the writer and leaves; the collector has not noticed when another one attaches, and takes
-- that one over with the next report.
theorem second_client_taken_over :
    let attaches : List (Step MemorySink) :=
      .happens (.arrive (.client .unlimited)) :: List.replicate 5 (.happens .accept)
    let report : List (Step MemorySink) :=
      [.call (.beginSpace ⟨0⟩ ⟨2⟩ 1), .proceed, .proceed, .call (.endSpace ⟨2⟩)]
    let leaves : List (Step MemorySink) := [.happens (.endData 1), .happens (.read 1)]
    let steps := .start { bind := .ok, first := .error .brokenPipe } :: attaches ++ report ++ leaves ++ attaches
    ∃ made : Server MemorySink, Server.make {} ["gc"] = .ok made ∧
      let world := (World.ofServer made).run steps
      world.server.writer.map (·.generation) = some 1 ∧
      world.server.attachment.connected = true ∧ world.server.attachment.generation = 2 ∧
      let begun := world.run [.call (.safepoint ⟨0⟩), .proceed]
      ∃ client, begun.server.writer = some client ∧ client.generation = 2 := by
  intro attaches report leaves steps
  have attached : (Server.make (σ := MemorySink) {} ["gc"]).toOption.any (fun made =>
      let world := (World.ofServer made).run steps
      decide (world.server.writer.map (·.generation) = some 1 ∧
        world.server.attachment = ⟨true, 2, false, 0, []⟩ ∧ world.progress.isReady = true ∧
        world.server.isRegistered ⟨0⟩ = true ∧
        (World.ofServer made).partingAfter false steps = false)) = true := by
    simp only [steps, attaches, report, leaves]
    decide +kernel
  generalize steps = steps at attached ⊢
  obtain ⟨made, created, passes⟩ := Wire.except_any_ok attached
  obtain ⟨writer, attachment, ready, known, complete⟩ := of_decide_eq_true passes
  have connected : ((World.ofServer made).run steps).server.attachment.connected = true := by
    rw [attachment]
  have attends := attached_client_present {} ["gc"] [] made made created rfl steps
  obtain ⟨_, _, _, taken, _⟩ :=
    attends.begins complete (Progress.ready_of_is_ready ready) (.safepoint ⟨0⟩) known
  obtain ⟨client, writes, number⟩ := taken connected
  exact ⟨made, created, writer, connected, by rw [attachment], client, writes, by rw [number, attachment]⟩

end HeapScope
