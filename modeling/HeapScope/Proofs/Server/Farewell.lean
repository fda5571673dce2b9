import HeapScope.Proofs.Report.Conduct
import HeapScope.Proofs.Server.Releasing

/- The end of a server. A connection that the acceptor takes once the server is shutting down is let go,
   so that nobody attaches any more (`Barred`, `run_barred`), unless a connection was past this question
   before: such a client is attached whatever has become of the server (`greeted_client_stays`). -/
namespace HeapScope

variable {σ : Type}

def Acceptor.admits : Acceptor σ → Bool
  | .admitted _ | .greeting _ | .greeted _ => true
  | .waiting | .accepted _ | .stopped => false

structure Server.SameDoor (server next : Server σ) : Prop where
  acceptor : next.acceptor = server.acceptor
  shuttingDown : next.shuttingDown = server.shuttingDown
  address : next.address = server.address

structure Barred (world : World σ) : Prop where
  shuttingDown : world.server.shuttingDown = true
  nobodyAdmitted : world.server.acceptor.any Acceptor.admits = false

namespace Server

theorem same_door_refl (server : Server σ) : server.SameDoor server := ⟨rfl, rfl, rfl⟩

theorem with_writer_door (server : Server σ) (call : Recorder σ → Except Error Unit × Recorder σ) :
    server.SameDoor (server.withWriter call).2 := by
  rcases server.with_writer_cases call with
    ⟨_, done⟩ | ⟨client, recorder, _, ⟨_, done⟩ | ⟨_, _, _, done⟩ | ⟨_, _, _, done⟩⟩
  · rw [done]
    exact same_door_refl server
  · rw [done]
    exact ⟨rfl, rfl, rfl⟩
  · rw [done]
    exact ⟨rfl, rfl, rfl⟩
  · rw [done]
    exact ⟨rfl, rfl, rfl⟩

theorem adopt_door (server : Server σ) (taken : Option (Client σ)) :
    server.SameDoor (server.adopt taken) := by
  cases taken with
  | none => exact ⟨rfl, rfl, rfl⟩
  | some client =>
    by_cases current : server.isCurrent client = true
    · rw [adopt, if_pos current]
      exact ⟨rfl, rfl, rfl⟩
    · rw [adopt, if_neg current]
      exact ⟨rfl, rfl, rfl⟩

theorem arrive_door (server : Server σ) (arrival : Arrival σ) :
    server.SameDoor (server.arrive arrival) := by
  by_cases listens : server.isListening = true
  · rw [arrive, if_pos listens]
    exact ⟨rfl, rfl, rfl⟩
  · rw [arrive, if_neg listens]
    exact same_door_refl server

theorem reader_move_door (server : Server σ) (generation : Nat) :
    server.SameDoor (server.readerMove generation) := by
  obtain ⟨attachment, readers, same⟩ := server.reader_move_eq generation
  rw [same]
  exact ⟨rfl, rfl, rfl⟩

theorem acceptor_move_address [Sink σ] (server : Server σ) (reader : Except Transport Unit) :
    (server.acceptorMove reader).address = server.address := by
  have moves := server.acceptor_moves reader
  generalize server.acceptorMove reader = next at moves ⊢
  cases moves with
  | welcomes => exact (server.welcome_aside _ reader).2.2
  | _ => rfl

theorem dismiss_door [Sink σ] (server : Server σ) : server.SameDoor server.dismissClients := by
  obtain ⟨readers, same⟩ := server.dismiss_clients_eq
  rw [same]
  exact ⟨rfl, rfl, rfl⟩

end Server

section Moves

variable {world next : World σ}

theorem door_barred (barred : Barred world) (door : world.server.SameDoor next.server) : Barred next where
  shuttingDown := door.shuttingDown.trans barred.shuttingDown
  nobodyAdmitted := door.acceptor ▸ barred.nobodyAdmitted

variable [Sink σ]

theorem call_door (world : World σ) (call : ReportCall) :
    world.server.SameDoor (world.call call).2.server := by
  have made := world.call_called call
  generalize world.call call = result at made ⊢
  cases made with
  | refused opening unknown => exact Server.same_door_refl world.server
  | taken opening registered => exact ⟨rfl, rfl, rfl⟩
  | started now => exact ⟨rfl, rfl, rfl⟩
  | stopped now =>
    cases running : world.server.timer with
    | none =>
      simp only [Server.stopTimer, running]
      exact Server.same_door_refl world.server
    | some started =>
      simp only [Server.stopTimer, running]
      exact ⟨rfl, rfl, rfl⟩
  | told call handsOn => exact world.server.with_writer_door _

theorem proceed_door (world : World σ) : world.server.SameDoor world.proceed.2.server := by
  have move := world.proceed_proceeds
  generalize world.proceed = result at move ⊢
  cases move with
  | rests => exact Server.same_door_refl world.server
  | adopts taken opening is => exact world.server.adopt_door taken
  | begins event space tileCount is => exact world.server.with_writer_door _
  | hears event is => exact Server.same_door_refl world.server
  | passes event is => exact Server.same_door_refl world.server
  | fails event is error after told =>
    have same : (world.tell (.safepoint event)).2.server = after.server := by rw [told]
    exact same ▸ world.server.with_writer_door _
  | tells event is after told =>
    have same : (world.tell (.safepoint event)).2.server = after.server := by rw [told]
    exact same ▸ world.server.with_writer_door _
  | resumes attachment is lets => exact ⟨rfl, rfl, rfl⟩

theorem happen_door (happening : Happening σ) (aside : ∀ reader, happening ≠ .accept reader) :
    world.server.SameDoor (world.happen happening).server := by
  cases happening with
  | arrive arrival => exact world.server.arrive_door arrival
  | accept reader => exact absurd rfl (aside reader)
  | receive generation bytes => exact ⟨rfl, rfl, rfl⟩
  | endData generation => exact ⟨rfl, rfl, rfl⟩
  | read generation => exact world.server.reader_move_door generation
  | change generation change => exact ⟨rfl, rfl, rfl⟩

theorem accept_barred (barred : Barred world) (reader : Except Transport Unit) :
    Barred (world.happen (.accept reader)) := by
  obtain ⟨shuttingDown, nobodyAdmitted⟩ := barred
  have moves := world.server.acceptor_moves reader
  rw [World.happen]
  generalize world.server.acceptorMove reader = next at moves ⊢
  cases moves with
  | rests => exact ⟨shuttingDown, nobodyAdmitted⟩
  | accepts | stops | misses | refuses | loses => exact ⟨shuttingDown, rfl⟩
  | admits _ serves => cases serves.symm.trans shuttingDown
  | turns is | greets is | welcomes is =>
    rw [is] at nobodyAdmitted
    cases nobodyAdmitted

theorem shut_barred (barred : Barred world) (move : Closing) : Barred (world.shut move) := by
  cases move with
  | dismiss => exact door_barred barred world.server.dismiss_door
  | raise => exact ⟨rfl, barred.nobodyAdmitted⟩
  | close => exact ⟨barred.shuttingDown, barred.nobodyAdmitted⟩
  | wake => exact door_barred barred (world.server.arrive_door .wakeUp)
  | join =>
    simp only [World.shut, Server.joinAcceptor?]
    split
    · exact barred
    · exact ⟨barred.shuttingDown, rfl⟩
    · exact barred

theorem shut_address (world : World σ) (move : Closing) :
    (world.shut move).server.address = world.server.address := by
  cases move with
  | dismiss => exact world.server.dismiss_door.address
  | raise => rfl
  | close => rfl
  | wake => exact (world.server.arrive_door .wakeUp).address
  | join =>
    simp only [World.shut, Server.joinAcceptor?]
    split <;> rfl

-- A step that does not start a server for the first time.
def World.Late (world : World σ) (step : Step σ) : Prop :=
  world.server.address ≠ none ∨ ∀ machine, step ≠ .start machine

theorem start_again (bound : world.server.address ≠ none) (machine : Server.Machine σ) :
    (world.server.start machine).2 = world.server := by
  rcases world.server.start_cases machine with same | ⟨unbound, _⟩
  · exact same
  · exact absurd unbound bound

theorem late_step_cases (property : World σ → Prop) {step : Step σ} (late : world.Late step)
    (stays : property world) (through : ∀ next, world.server.SameDoor next.server → property next)
    (accepts : ∀ reader, property (world.happen (.accept reader)))
    (shuts : ∀ move, property (world.shut move)) :
    property (world.step step).2 := by
  cases step with
  | call call =>
    by_cases ready : world.progress.isReady = true
    · rw [World.step, if_pos ready]
      exact through _ (call_door world call)
    · rw [World.step, if_neg ready]
      exact stays
  | proceed => exact through _ (proceed_door world)
  | start machine =>
    have same := start_again (late.resolve_right fun other => other machine rfl) machine
    rw [World.step, same]
    split
    · exact stays
    · exact stays
  | closing move =>
    by_cases ready : world.progress.isReady = true
    · rw [World.step, if_pos ready]
      exact shuts move
    · rw [World.step, if_neg ready]
      exact stays
  | happens happening =>
    by_cases accepting : ∃ reader, happening = .accept reader
    · obtain ⟨reader, rfl⟩ := accepting
      exact accepts reader
    · exact through _ (happen_door happening (not_exists.mp accepting))

theorem step_barred (barred : Barred world) {step : Step σ} (late : world.Late step) :
    Barred (world.step step).2 :=
  late_step_cases Barred late barred (fun _ => door_barred barred) (accept_barred barred)
    (shut_barred barred)

theorem step_address {step : Step σ} (late : world.Late step) :
    (world.step step).2.server.address = world.server.address :=
  late_step_cases (fun next => next.server.address = world.server.address) late rfl
    (fun _ door => door.address) world.server.acceptor_move_address (shut_address world)

theorem barred_stays (barred : Barred world) {step : Step σ} (late : world.Late step) :
    (world.step step).2.server.attachment.generation = world.server.attachment.generation ∧
      ((world.step step).2.server.attachment.connected = true →
        world.server.attachment.connected = true) := by
  have shut : ¬world.Opens step := by
    rintro (⟨_, recorder, greeted⟩ | ⟨⟨machine, starts⟩, unbound⟩)
    · have admits := barred.nobodyAdmitted
      rw [greeted] at admits
      cases admits
    · exact (late.resolve_right fun other => other machine starts) unbound
  rcases World.turns_attached (world.step_turns step) with ⟨_, opens, _⟩ | ⟨opens, _⟩ | stays
  · exact absurd opens shut
  · exact absurd opens shut
  · exact stays

theorem run_barred (barred : Barred world) (steps : List (Step σ))
    (late : ∀ step ∈ steps, world.Late step) :
    Barred (world.run steps) ∧
      (world.run steps).server.address = world.server.address ∧
      (world.run steps).server.attachment.generation = world.server.attachment.generation ∧
      ((world.run steps).server.attachment.connected = true →
        world.server.attachment.connected = true) := by
  induction steps generalizing world with
  | nil => exact ⟨barred, rfl, rfl, id⟩
  | cons step steps ih =>
    have first := late step List.mem_cons_self
    have still := step_barred barred first
    have address := step_address first
    obtain ⟨generation, connected⟩ := barred_stays barred first
    have others : ∀ other ∈ steps, (world.step step).2.Late other := by
      intro other member
      rw [World.Late, address]
      exact late other (List.mem_cons_of_mem step member)
    obtain ⟨barredAfter, addressAfter, generationAfter, connectedAfter⟩ := ih still others
    exact ⟨barredAfter, addressAfter.trans address, generationAfter.trans generation,
      fun attached => connected (connectedAfter attached)⟩

end Moves

def World.Deserted (world : World σ) : Prop :=
  world.progress.taken = none ∧ world.server.incoming = none ∧ world.server.writer = none

section Departing

variable {world next : World σ}

theorem goes_deserted (goes : Goes world next) (deserted : world.Deserted)
    (same : next.server.attachment.generation = world.server.attachment.generation) :
    next.Deserted ∧ next.server.departed = world.server.departed := by
  obtain ⟨new, perm, _, bounds⟩ := goes.shifts.numbers
  obtain ⟨leaving, departed⟩ := goes.shifts.departed
  obtain ⟨taken, incoming, writer⟩ := deserted
  have nobody : new = [] := by
    refine List.eq_nil_iff_forall_not_mem.mpr fun number member => ?_
    have above := bounds number member
    omega
  have lengths := perm.length_eq
  simp only [nobody, Server.numbers, Server.clients, taken, incoming, writer, departed,
    List.length_map, List.length_append, List.length_nil, Option.toList_none] at lengths
  have none {client : Option (Client σ)} (few : client.toList.length = 0) : client = none :=
    Option.toList_eq_nil_iff.mp (List.length_eq_zero_iff.mp few)
  refine ⟨⟨none ?_, none ?_, none ?_⟩, ?_⟩
  · omega
  · omega
  · omega
  · have few : leaving = [] := List.length_eq_zero_iff.mp (by omega)
    rw [departed, few, List.nil_append]

variable [Sink σ]

theorem run_deserted (deserted : world.Deserted) {steps : List (Step σ)}
    (same : (world.run steps).server.attachment.generation = world.server.attachment.generation) :
    (world.run steps).Deserted ∧ (world.run steps).server.departed = world.server.departed := by
  induction steps generalizing world with
  | nil => exact ⟨deserted, rfl⟩
  | cons step steps ih =>
    have goes := step_goes world step
    have first := goes.shifts.grows
    have others := run_grows (world.step step).2 steps
    change ((world.step step).2.run steps).server.attachment.generation = _ at same
    have still : (world.step step).2.server.attachment.generation =
        world.server.attachment.generation := by omega
    obtain ⟨empty, departed⟩ := goes_deserted goes deserted still
    obtain ⟨after, departedAfter⟩ := ih empty (same.trans still.symm)
    exact ⟨after, departedAfter.trans departed⟩

theorem happens_ready (ready : world.progress = .ready) (happenings : List (Happening σ)) :
    (world.run (happenings.map .happens)).progress = .ready := by
  induction happenings generalizing world with
  | nil => exact ready
  | cons happening happenings ih =>
    obtain ⟨change, progress⟩ := world.happen_progress happening
    rw [ready] at progress
    exact ih progress

theorem send_shutdown_gives (view : SinkView σ) (recorder : Recorder σ)
    (usable : view.valid recorder.sink) (room : 1 ≤ recorder.frameLimit) :
    view.Gave recorder.sink recorder.sendShutdown.2.sink (frameOf [0x0b])
      (Journal.failedInTransport recorder.sendShutdown.1 = true) := by
  rw [Recorder.send_shutdown_eq]
  have small : [(0x0b : UInt8)].length < 2 ^ 32 := by decide
  obtain ⟨answer, sink, flushed, sends⟩ :=
    flush_roomy { recorder.discard with frame := ⟨[0x0b], none⟩ } rfl ⟨room, small⟩
  rcases Recorder.flush_frame_cases view { recorder.discard with frame := ⟨[0x0b], none⟩ } usable rfl with
    ⟨large, _⟩ | ⟨length, limit, refused⟩ | ⟨outcome, after, handed, _, _, _, _, gave⟩
  · change 2 ^ 32 ≤ 1 at large
    omega
  · cases flushed.symm.trans refused
    rcases sends with sent | ⟨cause, failed⟩
    · cases sent
    · cases failed
  · rw [handed]
    exact gave

def ToldGoodbye (view : SinkView σ) (log : List Dealing) (client : Client σ) : Prop :=
  ∃ before goodbye, client = Server.sayGoodbye before ∧ Wire.encode .shutdown = .ok goodbye ∧
    ⟨client.generation, .shutdown, before.recorder.sendShutdown.1⟩ ∈ log ∧
    view.Gave before.recorder.sink client.recorder.sink (frameOf goodbye)
      (Journal.failedInTransport before.recorder.sendShutdown.1 = true)

variable {view : SinkView σ} {settings : Settings} {info : ServerInfo}

theorem dismiss_farewells (streams : Streams view settings info world) (room : 1 ≤ settings.frameLimit) :
    ∀ client ∈ world.dismiss.server.departed, client ∈ world.server.departed ∨
      ToldGoodbye view world.dismiss.log client := by
  obtain ⟨readers, same⟩ := world.server.dismiss_clients_eq
  have departed : world.dismiss.server.departed =
      (world.server.writer.toList ++ world.server.incoming.toList).map Server.sayGoodbye ++
        world.server.departed := by
    rw [World.dismiss, same]
  rw [departed]
  intro client member
  rcases List.mem_append.mp member with told | gone
  · obtain ⟨before, among, rfl⟩ := List.mem_map.mp told
    have greeted : ∃ journal, Greeted view info settings.frameLimit before.recorder journal := by
      rcases List.mem_append.mp among with writes | waits
      · obtain ⟨journal, greeted, _⟩ := streams.writer before (Option.mem_toList.mp writes)
        exact ⟨journal, greeted⟩
      · exact ⟨.blank, streams.incoming before (Option.mem_toList.mp waits)⟩
    obtain ⟨journal, hello, _, _, tracks⟩ := greeted
    have gave := send_shutdown_gives view before.recorder tracks.usable (tracks.limited ▸ room)
    refine .inr ⟨before, [0x0b], rfl, rfl, ?_, gave⟩
    exact List.mem_append_right world.log (List.mem_map.mpr ⟨before, among, rfl⟩)
  · exact .inl gone

omit [Sink σ] in
theorem departed_left (numbered : Numbered world) (joined : Joined world false)
    (ready : world.progress = .ready) {client : Client σ} (gone : client ∈ world.server.departed) :
    world.Left client.generation := by
  have among : client ∈ world.clients := List.mem_append_right _ gone
  have counted := numbered.counted _ (List.mem_map_of_mem among)
  refine ⟨counted, fun connected => Nat.lt_of_le_of_ne counted fun same => ?_⟩
  obtain ⟨present, place, own⟩ := mem_present.mp (joined.present rfl connected)
  have active : present ∈ world.server.writer.toList ++ world.server.incoming.toList := by
    rw [ready] at place
    rcases place with held | waits | writes
    · cases held
    · exact List.mem_append_right _ (Option.mem_toList.mpr waits)
    · exact List.mem_append_left _ (Option.mem_toList.mpr writes)
  exact departed_apart numbered active gone (own.trans same.symm)

theorem dismiss_deserted (ready : world.progress = .ready) : world.dismiss.Deserted := by
  obtain ⟨readers, same⟩ := world.server.dismiss_clients_eq
  refine ⟨?_, ?_, ?_⟩
  · rw [World.dismiss, ready]
    rfl
  · rw [World.dismiss, same]
  · rw [World.dismiss, same]

end Departing

structure Ending (σ : Type) where
  raising : List (Happening σ)
  closing : List (Happening σ)
  waking : List (Happening σ)
  joining : List (Happening σ)

namespace Ending

def farewells (ending : Ending σ) : List (Step σ) :=
  .closing .dismiss :: ending.raising.map .happens

def steps (ending : Ending σ) : List (Step σ) :=
  ending.farewells ++ .closing .raise :: ending.closing.map .happens ++
    .closing .close :: ending.waking.map .happens ++
    .closing .wake :: ending.joining.map .happens ++ [.closing .join]

end Ending

variable [Sink σ] {world : World σ}

theorem step_shut (ready : world.progress = .ready) (move : Closing) :
    (world.step (.closing move)).2 = world.shut move := by
  rw [World.step, ready]
  rfl

theorem farewells_run (ready : world.progress = .ready) (ending : Ending σ) :
    world.run ending.farewells = world.dismiss.run (ending.raising.map .happens) := by
  rw [Ending.farewells, World.run, List.foldl_cons, step_shut ready]
  rfl

theorem farewells_ready (ready : world.progress = .ready) (ending : Ending σ) :
    (world.run ending.farewells).progress = .ready := by
  have dismissed : world.dismiss.progress = .ready := ready
  rw [farewells_run ready ending]
  exact happens_ready dismissed ending.raising

theorem raised_run (ready : world.progress = .ready) (ending : Ending σ) :
    world.run ending.steps = (((world.run ending.farewells).shut .raise).run
      (ending.closing.map .happens)).run (.closing .close :: ending.waking.map .happens ++
        .closing .wake :: ending.joining.map .happens ++ [.closing .join]) := by
  rw [← step_shut (farewells_ready ready ending)]
  simp only [Ending.steps, World.run, List.foldl_append, List.foldl_cons]

omit [Sink σ] in
theorem unattached_after {world next : World σ}
    (attached : next.server.attachment.connected = true → world.server.attachment.connected = true)
    (nobody : world.server.attachment.connected = false) : next.server.attachment.connected = false :=
  Bool.eq_false_iff.mpr fun connected => Bool.false_ne_true (nobody.symm.trans (attached connected))

theorem ending_barred {ending : Ending σ} (ready : world.progress = .ready)
    (calm : (world.run ending.farewells).server.acceptor.any Acceptor.admits = false) :
    Barred (world.run ending.steps) ∧
      (world.run ending.steps).server.attachment.generation =
        (world.run ending.farewells).server.attachment.generation ∧
      (world.run ending.steps).server.attachment.connected = false := by
  rw [raised_run ready ending]
  have readyToRaise := farewells_ready ready ending
  generalize world.run ending.farewells = raising at calm readyToRaise ⊢
  have raised : Barred (raising.shut .raise) := ⟨rfl, calm⟩
  have readyRaised : (raising.shut .raise).progress = .ready := readyToRaise
  have readyToClose := happens_ready readyRaised ending.closing
  obtain ⟨still, _, before, _⟩ := run_barred raised (ending.closing.map .happens) <| by
    intro step member
    refine .inr ?_
    rintro machine rfl
    simp at member
  generalize (raising.shut .raise).run (ending.closing.map .happens) = closing at *
  rw [List.cons_append, List.cons_append, World.run, List.foldl_cons, step_shut readyToClose]
  obtain ⟨barred, _, after, attached⟩ := run_barred (shut_barred still .close)
    (ending.waking.map .happens ++ .closing .wake :: ending.joining.map .happens ++ [.closing .join]) <| by
      intro step member
      refine .inr ?_
      rintro machine rfl
      simp at member
  exact ⟨barred, after.trans before, unattached_after attached rfl⟩

theorem shutdown_is_final (view : SinkView σ) (settings : Settings) (events : List String)
    (spaces : List SpaceDescriptor) (made server : Server σ)
    {build : Build} (created : Server.make settings events build = .ok made)
    (registered : Channel.addSpaces made spaces = .ok server) (steps : List (Step σ))
    (connects : ∀ step ∈ steps, Connects view step) (ending : Ending σ) :
    let world := (World.ofServer server).run steps
    world.progress = .ready → (World.ofServer server).partingAfter false steps = false →
    let raising := world.run ending.farewells
    raising.server.acceptor.any Acceptor.admits = false →
    let last := world.run ending.steps
    ∀ more : List (Step σ), (∀ step ∈ more, last.Late step) →
      let later := last.run more
      later.server.hasClient = false ∧ (∀ event, later.server.isConnected event = false) ∧
      (raising.server.attachment.generation = world.server.attachment.generation →
        later.server.incoming = none ∧ later.server.writer = none ∧
        ∀ client ∈ later.clients, world.Left client.generation ∨ ToldGoodbye view later.log client) := by
  intro world ready complete raising calm last more late later
  obtain ⟨unspaced, least⟩ := Server.make_fresh created
  have fresh := Server.add_spaces_fresh unspaced registered
  have room : 1 ≤ settings.frameLimit := Nat.le_trans (by decide) least
  obtain ⟨barred, same, nobody⟩ := ending_barred ready calm
  obtain ⟨_, _, stays, attached⟩ := run_barred barred more late
  have alone : later.server.attachment.connected = false := unattached_after attached nobody
  refine ⟨alone, fun event => ?_, fun quiet => ?_⟩
  · rw [Server.isConnected, Attachment.hears, alone, Bool.false_and, Bool.and_false]
  have numbered : Numbered world := run_numbered (fresh_numbered fresh) steps
  have joined : Joined world false := complete ▸ run_joined (fresh_joined fresh) steps
  have begun : Streams view settings server.info (World.ofServer server) := Custody.fresh_holds _ fresh
  have streams : Streams view settings server.info world :=
    run_streams begun steps fun step member => connects_fair (connects step member)
  -- All that follows the goodbyes is one run in which nobody attaches.
  obtain ⟨rest, reached⟩ : ∃ rest, later = world.dismiss.run rest := by
    obtain ⟨rest, moves⟩ : ∃ rest, ending.steps = .closing .dismiss :: rest := ⟨_, rfl⟩
    refine ⟨rest ++ more, ?_⟩
    change (world.run ending.steps).run more = _
    rw [moves, World.run_cons, step_shut ready, World.run_append]
    rfl
  have dismissed := congrArg Attachment.generation world.server.dismiss_keeps.1
  have nobodyNew : later.server.attachment.generation = world.dismiss.server.attachment.generation :=
    (stays.trans same).trans (quiet.trans dismissed.symm)
  rw [reached] at nobodyNew ⊢
  obtain ⟨⟨taken, incoming, writer⟩, departed⟩ := run_deserted (dismiss_deserted ready) nobodyNew
  refine ⟨incoming, writer, fun client member => ?_⟩
  rw [World.clients, Server.clients, taken, incoming, writer, departed] at member
  rcases dismiss_farewells streams room client member with gone | told
  · exact .inl (departed_left numbered joined ready gone)
  · obtain ⟨before, goodbye, is, encoded, logged, gave⟩ := told
    obtain ⟨_, dealings, log, _⟩ := run_lasts (goes_numbered numbered (dismiss_goes world)) rest
    exact .inr ⟨before, goodbye, is, encoded, log ▸ List.mem_append_left dealings logged, gave⟩

-- A client is attached, and another one comes while the server says goodbye, which lets it go. Nothing
-- that the collector does then finds a client.
theorem attached_client_told_goodbye :
    let steps : List (Step MemorySink) := .start { bind := .ok, first := .error .brokenPipe } :: attaching
    let ending : Ending MemorySink := ⟨[.arrive (.client .unlimited), .accept], [], [], [.accept]⟩
    let more : List (Step MemorySink) := [.call (.safepoint ⟨0⟩), .proceed, .proceed]
    ∃ made : Server MemorySink, Server.make {} ["gc"] = .ok made ∧
      let world := (World.ofServer made).run steps
      world.server.attachment = ⟨true, 1, false, 0, []⟩ ∧
      let last := world.run ending.steps
      last.server.acceptor.isNone = true ∧ last.clients.map (·.generation) = [1] ∧
      let later := last.run more
      later.server.hasClient = false ∧ later.server.incoming = none ∧ later.server.writer = none ∧
      ∀ client ∈ later.clients, client.generation = 1 → ToldGoodbye MemorySink.anyView later.log client := by
  intro steps ending more
  have connects : ∀ step ∈ steps, Connects MemorySink.anyView step := by
    simp [steps, attaching, Connects, MemorySink.anyView, MemorySink.view, MemorySink.unlimited]
  have never : ∀ step ∈ more, ∀ machine, step ≠ .start machine := by simp [more]
  have ends : (Server.make (σ := MemorySink) {} ["gc"]).toOption.any (fun made =>
      let world := (World.ofServer made).run steps
      let raising := world.run ending.farewells
      let last := world.run ending.steps
      decide (world.progress.isReady = true ∧ (World.ofServer made).partingAfter false steps = false ∧
        world.server.attachment = ⟨true, 1, false, 0, []⟩ ∧
        raising.server.acceptor.any Acceptor.admits = false ∧ raising.server.attachment.generation = 1 ∧
        last.server.acceptor.isNone = true ∧ last.clients.map (·.generation) = [1])) = true := by
    simp only [steps, ending]
    decide +kernel
  generalize steps = steps at connects ends ⊢
  obtain ⟨made, created, passes⟩ := Wire.except_any_ok ends
  obtain ⟨ready, complete, attachment, calm, quiet, joined, clients⟩ := of_decide_eq_true passes
  obtain ⟨nobody, _, deserted⟩ := shutdown_is_final MemorySink.anyView {} ["gc"] [] made made created rfl
    steps connects ending (Progress.ready_of_is_ready ready) complete calm more
    fun step member => .inr (never step member)
  obtain ⟨incoming, writer, told⟩ := deserted (quiet.trans (by rw [attachment]))
  refine ⟨made, created, attachment, joined, clients, nobody, incoming, writer, ?_⟩
  intro client member first
  rcases told client member with ⟨_, left⟩ | goodbye
  · rw [attachment, first] at left
    exact absurd (left rfl) (Nat.lt_irrefl 1)
  · exact goodbye

-- A client that has been greeted when the shutdown begins is attached when it has returned, or waits
-- to be taken over if that comes before the server notes its end, and is told nothing. A server that is
-- started for the first time behind a shutdown takes its first client too.
theorem greeted_client_stays :
    let greets : List (Step MemorySink) := .start { bind := .ok, first := .error .brokenPipe } ::
      .happens (.arrive (.client .unlimited)) :: List.replicate 4 (.happens .accept)
    let late : Ending MemorySink := ⟨[], [], [], [.accept, .accept, .accept]⟩
    let early : Ending MemorySink := ⟨[.accept], [], [], [.accept, .accept]⟩
    let alone : Ending MemorySink := ⟨[], [], [], []⟩
    (∃ made : Server MemorySink, Server.make {} ["gc"] = .ok made ∧
      let world := (World.ofServer made).run (greets ++ late.steps)
      world.server.acceptor.isNone = true ∧ world.server.hasClient = true ∧
      world.server.isConnected ⟨0⟩ = true ∧ world.server.incoming.map (·.generation) = some 1 ∧
      world.log = []) ∧
    (∃ made : Server MemorySink, Server.make {} ["gc"] = .ok made ∧
      let world := (World.ofServer made).run (greets ++ early.steps)
      world.server.acceptor.isNone = true ∧ world.server.incoming.map (·.generation) = some 1 ∧
      world.log = []) ∧
    ∃ made : Server MemorySink, Server.make { waitForClient := true } ["gc"] = .ok made ∧
      let world := (World.ofServer made).run (alone.steps ++ [.start { bind := .ok, first := .ok .unlimited }])
      world.server.hasClient = true := by
  intro greets late early alone
  have attached : (Server.make (σ := MemorySink) {} ["gc"]).toOption.any (fun made =>
      let world := (World.ofServer made).run (greets ++ late.steps)
      decide (world.server.acceptor.isNone = true ∧ world.server.hasClient = true ∧
        world.server.isConnected ⟨0⟩ = true ∧ world.server.incoming.map (·.generation) = some 1 ∧
        world.log.isEmpty = true)) = true := by
    simp only [greets, late]
    decide +kernel
  have waits : (Server.make (σ := MemorySink) {} ["gc"]).toOption.any (fun made =>
      let world := (World.ofServer made).run (greets ++ early.steps)
      decide (world.server.acceptor.isNone = true ∧
        world.server.incoming.map (·.generation) = some 1 ∧ world.log.isEmpty = true)) = true := by
    simp only [greets, early]
    decide +kernel
  have starts : (Server.make (σ := MemorySink) { waitForClient := true } ["gc"]).toOption.any (fun made =>
      let world := (World.ofServer made).run (alone.steps ++ [.start { bind := .ok, first := .ok .unlimited }])
      world.server.hasClient) = true := by
    simp only [alone]
    decide +kernel
  obtain ⟨made, created, passes⟩ := Wire.except_any_ok attached
  obtain ⟨returned, client, hears, incoming, log⟩ := of_decide_eq_true passes
  obtain ⟨same, createdToo, passes⟩ := Wire.except_any_ok waits
  obtain ⟨returnedToo, waiting, silent⟩ := of_decide_eq_true passes
  exact ⟨⟨made, created, returned, client, hears, incoming, List.isEmpty_iff.mp log⟩,
    ⟨same, createdToo, returnedToo, waiting, List.isEmpty_iff.mp silent⟩, Wire.except_any_ok starts⟩

end HeapScope
