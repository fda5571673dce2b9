import HeapScope.Server.Closing

/- All that can happen to a server, move by move. The calls of the collector that begin something new are
   taken apart into the moves between which other threads can run: the client that waits is taken, becomes
   the writer if it is still the current one, and only then is written to; a safepoint asks whether anyone
   hears of it, tells of it and waits. What clients, readers and the acceptor do can happen before each
   move. With nothing in between the moves of a call are the call (`performed_alone`). -/
namespace HeapScope

inductive Opening where
  | report (event : EventId) (space : SpaceId) (tileCount : UInt32)
  | safepoint (event : EventId)
deriving DecidableEq, Repr

def Opening.event : Opening → EventId
  | .report event _ _ => event
  | .safepoint event => event

def Opening.call : Opening → ReportCall
  | .report event space tileCount => .beginSpace event space tileCount
  | .safepoint event => .safepoint event

inductive Progress (σ : Type) where
  | ready
  | adopting (taken : Option (Client σ)) (opening : Opening)
  | opening (event : EventId) (space : SpaceId) (tileCount : UInt32)
  | asking (event : EventId)
  | telling (event : EventId)
  | waiting

namespace Progress

def isReady : Progress σ → Bool
  | .ready => true
  | _ => false

theorem ready_of_is_ready {progress : Progress σ} (ready : progress.isReady = true) :
    progress = .ready := by
  cases progress <;> first | rfl | cases ready

def taken : Progress σ → Option (Client σ)
  | .adopting taken _ => taken
  | _ => none

def call? : Progress σ → Option ReportCall
  | .adopting _ begun => some begun.call
  | .opening event space tileCount => some (.beginSpace event space tileCount)
  | .asking event => some (.safepoint event)
  | .telling event => some (.safepoint event)
  | .ready | .waiting => none

def adopted : Opening → Progress σ
  | .report event space tileCount => .opening event space tileCount
  | .safepoint event => .asking event

def mapTaken (change : Client σ → Client σ) : Progress σ → Progress σ
  | .adopting taken next => .adopting (taken.map change) next
  | progress => progress

theorem map_taken_id (progress : Progress σ) : progress.mapTaken id = progress := by
  cases progress with
  | adopting taken opening => rw [mapTaken, Option.map_id, id]
  | _ => rfl

end Progress

structure Dealing where
  generation : Nat
  action : Recorder.Action
  outcome : Except Error Unit

namespace Server

variable {σ : Type}

def adopt (server : Server σ) (taken : Option (Client σ)) : Server σ :=
  let stays := server.writer.filter server.isCurrent
  let leaves := server.writer.filter (!server.isCurrent ·)
  match taken with
  | none => { server with writer := stays, departed := leaves.toList ++ server.departed }
  | some client =>
    if server.isCurrent client then
      { server with writer := some client, departed := server.writer.toList ++ server.departed }
    else { server with writer := stays, departed := leaves.toList ++ client :: server.departed }

def feed (server : Server σ) (generation : Nat) (bytes : Bytes) : Server σ :=
  { server with readers := server.readers.map fun reader =>
      if reader.generation = generation then reader.feed bytes else reader }

theorem sync_client_eq (server : Server σ) :
    server.syncClient = adopt { server with incoming := none } server.incoming := by
  unfold syncClient adopt
  cases server.incoming <;> rfl

theorem dismiss_clients_eq [Sink σ] (server : Server σ) :
    ∃ readers, server.dismissClients = { server with
      writer := none
      incoming := none
      departed := (server.writer.toList ++ server.incoming.toList).map sayGoodbye ++ server.departed
      readers := readers } := by
  have ended (clients : List (Client σ)) (server : Server σ) : ∃ readers,
      clients.foldl (fun server client => server.endReader client.generation) server =
        { server with readers } := by
    induction clients generalizing server with
    | nil => exact ⟨server.readers, rfl⟩
    | cons client clients ih => exact ih (server.endReader client.generation)
  exact ended _ _

theorem reader_move_eq (server : Server σ) (generation : Nat) :
    ∃ attachment readers, server.readerMove generation = { server with attachment, readers } := by
  unfold readerMove
  cases server.readers.find? (·.generation = generation) with
  | none => exact ⟨server.attachment, server.readers, rfl⟩
  | some reader =>
    dsimp only
    cases reader.move with
    | wait => exact ⟨server.attachment, server.readers, rfl⟩
    | decode next => exact ⟨server.attachment, _, rfl⟩
    | apply command next => exact ⟨_, _, rfl⟩
    | leave => exact ⟨_, _, rfl⟩

theorem with_writer_cases (server : Server σ) (call : Recorder σ → Except Error Unit × Recorder σ) :
    (server.writer = none ∧ server.withWriter call = (.ok (), server)) ∨
    ∃ client recorder, server.writer = some client ∧
      ((call client.recorder = (.ok (), recorder) ∧ server.withWriter call =
          (.ok (), { server with writer := some { client with recorder } })) ∨
        (∃ error, call client.recorder = (.error error, recorder) ∧ error.isTransport = true ∧
          server.withWriter call =
            (.ok (), dropClient { server with writer := some { client with recorder } })) ∨
        (∃ error, call client.recorder = (.error error, recorder) ∧ error.isTransport = false ∧
          server.withWriter call = (.error error, { server with
            writer := some { client with recorder := recorder.discard } }))) := by
  unfold withWriter
  cases writer : server.writer with
  | none => exact .inl ⟨rfl, rfl⟩
  | some client =>
    dsimp only
    cases answer : call client.recorder with
    | mk outcome recorder =>
      refine .inr ⟨client, recorder, rfl, ?_⟩
      cases outcome with
      | ok done => exact .inl ⟨answer, rfl⟩
      | error error =>
        cases transport : error.isTransport with
        | true => exact .inr (.inl ⟨error, answer, transport, if_pos transport⟩)
        | false => exact .inr (.inr ⟨error, answer, transport, if_neg (by simp [transport])⟩)

theorem welcome_aside (server : Server σ) (recorder : Recorder σ) (reader : Except Transport Unit) :
    (server.welcome recorder reader).2.writer = server.writer ∧
      (server.welcome recorder reader).2.acceptor = server.acceptor ∧
      (server.welcome recorder reader).2.address = server.address := by
  cases reader <;> exact ⟨rfl, rfl, rfl⟩

inductive Attended [Sink σ] (server : Server σ) (machine : Machine σ) :
    Except Error Unit × Server σ → Prop where
  | unasked (alone : server.settings.waitForClient = false) : Attended server machine (.ok (), server)
  | unmet {cause : Transport} (waits : server.settings.waitForClient = true)
      (failed : machine.first = .error cause) : Attended server machine (.error (.transport cause), server)
  | ungreeted {sink : σ} {error : Error} {recorder : Recorder σ}
      (waits : server.settings.waitForClient = true) (comes : machine.first = .ok sink)
      (refused : server.greet sink = (.error error, recorder)) :
      Attended server machine (.error error, server)
  | admitted {sink : σ} {recorder : Recorder σ} (waits : server.settings.waitForClient = true)
      (comes : machine.first = .ok sink) (greeted : server.greet sink = (.ok (), recorder)) :
      Attended server machine (server.welcome recorder machine.reader)

theorem attend_attended [Sink σ] (server : Server σ) (machine : Machine σ) :
    server.Attended machine (server.attend machine) := by
  by_cases waits : server.settings.waitForClient = true
  · rw [attend, if_pos waits]
    cases first : machine.first with
    | error cause => exact .unmet waits first
    | ok sink =>
      dsimp only
      rw [attach]
      cases greeted : server.greet sink with
      | mk outcome recorder =>
        cases outcome with
        | error error => exact .ungreeted waits first greeted
        | ok done => exact .admitted waits first greeted
  · rw [attend, if_neg waits]
    exact .unasked (Bool.eq_false_iff.mpr waits)

theorem attend_cases [Sink σ] (server : Server σ) (machine : Machine σ) :
    (server.attend machine).2 = server ∨
    ∃ sink recorder, machine.first = .ok sink ∧ server.greet sink = (.ok (), recorder) ∧
      server.attend machine = server.welcome recorder machine.reader := by
  have attended := server.attend_attended machine
  generalize server.attend machine = result at attended ⊢
  cases attended with
  | unasked | unmet | ungreeted => exact .inl rfl
  | admitted waits comes greeted => exact .inr ⟨_, _, comes, greeted, rfl⟩

theorem start_cases [Sink σ] (server : Server σ) (machine : Machine σ) :
    (server.start machine).2 = server ∨
    server.address = none ∧ ∃ address,
      let attended := (attend { server with address := some address } machine).2
      (server.start machine).2 = attended ∨
        (server.start machine).2 = { attended with acceptor := some .waiting } := by
  by_cases started : server.address.isSome = true
  · simp [start, started]
  have unstarted : server.address = none := by simpa using started
  cases wanted : server.settings.socketAddress with
  | error error => simp [start, unstarted, wanted]
  | ok wish =>
    cases bound : machine.bind wish with
    | error cause => simp [start, unstarted, wanted, bound]
    | ok address =>
      refine .inr ⟨unstarted, address, ?_⟩
      simp only [start, unstarted, wanted, bound]
      cases attend { server with address := some address } machine with
      | mk outcome attended =>
        cases outcome with
        | error error => exact .inl rfl
        | ok done => cases machine.acceptor with
          | error cause => exact .inl rfl
          | ok started => exact .inr rfl

inductive AcceptorMoves [Sink σ] (server : Server σ) (reader : Except Transport Unit) :
    Server σ → Prop where
  | rests (idle : server.acceptor = none ∨ server.acceptor = some .stopped ∨
      server.acceptor = some .waiting ∧ server.backlog = []) : AcceptorMoves server reader server
  | accepts {arrival : Arrival σ} {backlog : List (Arrival σ)} (waits : server.acceptor = some .waiting)
      (queued : server.backlog = arrival :: backlog) :
      AcceptorMoves server reader { server with backlog, acceptor := some (.accepted arrival) }
  | stops {arrival : Arrival σ} (taken : server.acceptor = some (.accepted arrival))
      (ends : server.shuttingDown = true) :
      AcceptorMoves server reader { server with acceptor := some .stopped }
  | admits {sink : σ} (taken : server.acceptor = some (.accepted (.client sink)))
      (serves : server.shuttingDown = false) :
      AcceptorMoves server reader { server with acceptor := some (.admitted sink) }
  | misses {arrival : Arrival σ} (taken : server.acceptor = some (.accepted arrival))
      (serves : server.shuttingDown = false) (nobody : ∀ sink, arrival ≠ .client sink) :
      AcceptorMoves server reader { server with acceptor := some .waiting }
  | refuses {sink : σ} (asks : server.acceptor = some (.admitted sink))
      (busy : server.attachment.connected = true) :
      AcceptorMoves server reader { server with acceptor := some .waiting }
  | turns {sink : σ} (asks : server.acceptor = some (.admitted sink))
      (free : server.attachment.connected = false) :
      AcceptorMoves server reader { server with acceptor := some (.greeting sink) }
  | loses {sink : σ} {error : Error} {recorder : Recorder σ}
      (greets : server.acceptor = some (.greeting sink))
      (failed : server.greet sink = (.error error, recorder)) :
      AcceptorMoves server reader { server with acceptor := some .waiting }
  | greets {sink : σ} {recorder : Recorder σ} (greets : server.acceptor = some (.greeting sink))
      (greeted : server.greet sink = (.ok (), recorder)) :
      AcceptorMoves server reader { server with acceptor := some (.greeted recorder) }
  | welcomes {recorder : Recorder σ} (greeted : server.acceptor = some (.greeted recorder)) :
      AcceptorMoves server reader { (server.welcome recorder reader).2 with acceptor := some .waiting }

theorem acceptor_moves [Sink σ] (server : Server σ) (reader : Except Transport Unit) :
    server.AcceptorMoves reader (server.acceptorMove reader) := by
  cases phase : server.acceptor with
  | none =>
    simp only [acceptorMove, phase]
    exact .rests (.inl phase)
  | some acceptor =>
    cases acceptor with
    | waiting =>
      cases queue : server.backlog with
      | nil =>
        simp only [acceptorMove, phase, queue]
        exact .rests (.inr (.inr ⟨phase, queue⟩))
      | cons arrival backlog =>
        simp only [acceptorMove, phase, queue]
        exact .accepts phase queue
    | accepted arrival =>
      cases ends : server.shuttingDown with
      | true =>
        simp only [acceptorMove, phase, if_pos ends]
        exact .stops phase ends
      | false =>
        simp only [acceptorMove, phase, if_neg (Bool.eq_false_iff.mp ends)]
        cases arrival with
        | client sink => exact .admits phase ends
        | nameless | failed | wakeUp => exact .misses phase ends nofun
    | admitted sink =>
      cases connected : server.attachment.connected with
      | true =>
        simp only [acceptorMove, phase, if_pos connected]
        exact .refuses phase connected
      | false =>
        simp only [acceptorMove, phase, if_neg (Bool.eq_false_iff.mp connected)]
        exact .turns phase connected
    | greeting sink =>
      cases greeted : server.greet sink with
      | mk outcome recorder =>
        simp only [acceptorMove, phase, greeted]
        cases outcome with
        | error error => exact .loses phase greeted
        | ok done => exact .greets phase greeted
    | greeted recorder =>
      simp only [acceptorMove, phase]
      exact .welcomes phase
    | stopped =>
      simp only [acceptorMove, phase]
      exact .rests (.inr (.inl phase))

end Server

structure World (σ : Type) where
  server : Server σ
  progress : Progress σ
  log : List Dealing

inductive Happening (σ : Type) where
  | arrive (arrival : Arrival σ)
  | accept (reader : Except Transport Unit := .ok ())
  | receive (generation : Nat) (bytes : Bytes)
  | endData (generation : Nat)
  | read (generation : Nat)
  | change (generation : Nat) (change : σ → σ)

inductive Closing where
  | dismiss
  | raise
  | close
  | wake
  | join
deriving DecidableEq, Repr

inductive Step (σ : Type) where
  | call (call : ReportCall)
  | proceed
  | start (machine : Server.Machine σ)
  | closing (move : Closing)
  | happens (happening : Happening σ)

namespace World

variable {σ : Type} [Sink σ]

def ofServer (server : Server σ) : World σ := ⟨server, .ready, []⟩

def tell (world : World σ) (call : ReportCall) : Except Error Unit × World σ :=
  let told := world.server.withWriter (·.perform call)
  let dealing (client : Client σ) : Dealing :=
    ⟨client.generation, .report call, (client.recorder.perform call).1⟩
  (told.1, ⟨told.2, .ready, world.log ++ (world.server.writer.map dealing).toList⟩)

def take (world : World σ) (opening : Opening) : Option (Except Error Unit) × World σ :=
  if world.server.isRegistered opening.event then
    (none, { world with
      server := { world.server with incoming := none }
      progress := .adopting world.server.incoming opening })
  else (some (.error (.unknownEvent opening.event)), world)

omit [Sink σ] in
theorem take_registered (world : World σ) (opening : Opening)
    (registered : world.server.isRegistered opening.event = true) :
    world.take opening = (none, { world with
      server := { world.server with incoming := none }
      progress := .adopting world.server.incoming opening }) :=
  if_pos registered

omit [Sink σ] in
theorem take_unregistered (world : World σ) (opening : Opening)
    (unregistered : ¬world.server.isRegistered opening.event = true) :
    world.take opening = (some (.error (.unknownEvent opening.event)), world) :=
  if_neg unregistered

def call (world : World σ) : ReportCall → Option (Except Error Unit) × World σ
  | .beginSpace event space tileCount => world.take (.report event space tileCount)
  | .safepoint event => world.take (.safepoint event)
  | .startTimer now => (some (.ok ()), { world with server := world.server.startTimer now })
  | .stopTimer now => (some (.ok ()), { world with server := world.server.stopTimer now })
  | call =>
    let told := world.tell call
    (some told.1, told.2)

inductive Called (world : World σ) : ReportCall → Option (Except Error Unit) × World σ → Prop where
  | refused (opening : Opening) (unknown : ¬world.server.isRegistered opening.event = true) :
      Called world opening.call (some (.error (.unknownEvent opening.event)), world)
  | taken (opening : Opening) (registered : world.server.isRegistered opening.event = true) :
      Called world opening.call (none, { world with
        server := { world.server with incoming := none }
        progress := .adopting world.server.incoming opening })
  | started (now : Duration) : Called world (.startTimer now)
      (some (.ok ()), { world with server := world.server.startTimer now })
  | stopped (now : Duration) : Called world (.stopTimer now)
      (some (.ok ()), { world with server := world.server.stopTimer now })
  | told (call : ReportCall) (handsOn : ∀ now, call ≠ .startTimer now ∧ call ≠ .stopTimer now) :
      Called world call (some (world.tell call).1, (world.tell call).2)

theorem call_called (world : World σ) (call : ReportCall) : world.Called call (world.call call) := by
  have opens (opening : Opening) : world.Called opening.call (world.take opening) := by
    by_cases registered : world.server.isRegistered opening.event = true
    · rw [take_registered world opening registered]
      exact .taken opening registered
    · rw [take_unregistered world opening registered]
      exact .refused opening registered
  cases call with
  | beginSpace event space tileCount => exact opens (.report event space tileCount)
  | safepoint event => exact opens (.safepoint event)
  | startTimer now => exact .started now
  | stopTimer now => exact .stopped now
  | tileNames | streamData | control | putControl | summary | spaceInfo | endSpace =>
    exact .told _ fun _ => ⟨nofun, nofun⟩

def proceed (world : World σ) : Option (Except Error Unit) × World σ :=
  match world.progress with
  | .ready => (none, world)
  | .adopting taken opening =>
    (none, { world with server := world.server.adopt taken, progress := .adopted opening })
  | .opening event space tileCount =>
    let told := world.tell (.beginSpace event space tileCount)
    (some told.1, told.2)
  | .asking event =>
    if world.server.isConnected event then (none, { world with progress := .telling event })
    else (some (.ok ()), { world with progress := .ready })
  | .telling event =>
    match world.tell (.safepoint event) with
    | (.error error, world) => (some (.error error), world)
    | (.ok (), world) => (none, { world with progress := .waiting })
  | .waiting =>
    match world.server.recheck with
    | (.passed outcome, server) => (some outcome, { world with server, progress := .ready })
    | (.waiting, server) => (none, { world with server })

inductive Proceeds (world : World σ) : Option (Except Error Unit) × World σ → Prop where
  | rests : Proceeds world (none, world)
  | adopts (taken : Option (Client σ)) (opening : Opening)
      (is : world.progress = .adopting taken opening) :
      Proceeds world
        (none, { world with server := world.server.adopt taken, progress := .adopted opening })
  | begins (event : EventId) (space : SpaceId) (tileCount : UInt32)
      (is : world.progress = .opening event space tileCount) :
      Proceeds world (some (world.tell (.beginSpace event space tileCount)).1,
        (world.tell (.beginSpace event space tileCount)).2)
  | hears (event : EventId) (is : world.progress = .asking event) :
      Proceeds world (none, { world with progress := .telling event })
  | passes (event : EventId) (is : world.progress = .asking event) :
      Proceeds world (some (.ok ()), { world with progress := .ready })
  | fails (event : EventId) (is : world.progress = .telling event) (error : Error) (next : World σ)
      (told : world.tell (.safepoint event) = (.error error, next)) :
      Proceeds world (some (.error error), next)
  | tells (event : EventId) (is : world.progress = .telling event) (next : World σ)
      (told : world.tell (.safepoint event) = (.ok (), next)) :
      Proceeds world (none, { next with progress := .waiting })
  | resumes (attachment : Attachment) (is : world.progress = .waiting)
      (lets : world.server.attachment.pass? = some attachment) :
      Proceeds world
        (some (.ok ()), { world with server := { world.server with attachment }, progress := .ready })

theorem proceed_proceeds (world : World σ) : world.Proceeds world.proceed := by
  obtain ⟨server, progress, log⟩ := world
  cases progress with
  | ready => exact .rests
  | adopting taken opening => exact .adopts taken opening rfl
  | opening event space tileCount => exact .begins event space tileCount rfl
  | asking event =>
    rw [proceed]
    dsimp only
    split
    · exact .hears event rfl
    · exact .passes event rfl
  | telling event =>
    rw [proceed]
    dsimp only
    cases told : tell ⟨server, .telling event, log⟩ (.safepoint event) with
    | mk answer next =>
      cases answer with
      | error error => exact .fails event rfl error next told
      | ok done => exact .tells event rfl next told
  | waiting =>
    rw [proceed]
    dsimp only
    cases look : server.attachment.pass? with
    | some attachment =>
      simp only [Server.recheck, look]
      exact .resumes attachment rfl look
    | none =>
      simp only [Server.recheck, look]
      exact .rests

def happen (world : World σ) : Happening σ → World σ
  | .arrive arrival => { world with server := world.server.arrive arrival }
  | .accept reader => { world with server := world.server.acceptorMove reader }
  | .receive generation bytes => { world with server := world.server.feed generation bytes }
  | .endData generation => { world with server := world.server.endReader generation }
  | .read generation => { world with server := world.server.readerMove generation }
  | .change generation change =>
    let changed (client : Client σ) : Client σ :=
      if client.generation = generation then Server.mapSink change client else client
    { world with
      server := { world.server with
        incoming := world.server.incoming.map changed
        writer := world.server.writer.map changed }
      progress := world.progress.mapTaken changed }

def dismiss (world : World σ) : World σ :=
  let dealing (client : Client σ) : Dealing :=
    ⟨client.generation, .shutdown, client.recorder.sendShutdown.1⟩
  let clients := world.server.writer.toList ++ world.server.incoming.toList
  { world with server := world.server.dismissClients, log := world.log ++ clients.map dealing }

def shut (world : World σ) : Closing → World σ
  | .dismiss => world.dismiss
  | .raise => { world with server := world.server.raiseShutdown }
  | .close => { world with server := world.server.closeAttachment }
  | .wake => { world with server := world.server.wakeAcceptor }
  | .join => { world with server := world.server.joinAcceptor?.getD world.server }

theorem happen_progress (world : World σ) (happening : Happening σ) :
    ∃ change, (world.happen happening).progress = world.progress.mapTaken change := by
  cases happening with
  | change generation change => exact ⟨_, rfl⟩
  | _ => exact ⟨id, world.progress.map_taken_id.symm⟩

theorem happen_log (world : World σ) (happening : Happening σ) :
    (world.happen happening).log = world.log := by
  cases happening <;> rfl

-- The collector is one thread: it begins nothing while it is in a call.
def step (world : World σ) : Step σ → Option (Except Error Unit) × World σ
  | .call call => if world.progress.isReady then world.call call else (none, world)
  | .proceed => world.proceed
  | .start machine =>
    if world.progress.isReady then (none, { world with server := (world.server.start machine).2 })
    else (none, world)
  | .closing move => (none, if world.progress.isReady then world.shut move else world)
  | .happens happening => (none, world.happen happening)

def run (world : World σ) (steps : List (Step σ)) : World σ :=
  steps.foldl (fun world step => (world.step step).2) world

def made (world : World σ) : Step σ → Option ReportCall
  | .call call => if world.progress.isReady then some call else none
  | _ => none

def calls (world : World σ) : List (Step σ) → List ReportCall
  | [] => []
  | step :: steps => (world.made step).toList ++ calls (world.step step).2 steps

def answers (world : World σ) : List (Step σ) → List (Except Error Unit)
  | [] => []
  | step :: steps => (world.step step).1.toList ++ answers (world.step step).2 steps

theorem run_cons (world : World σ) (step : Step σ) (steps : List (Step σ)) :
    world.run (step :: steps) = (world.step step).2.run steps := rfl

theorem run_append (world : World σ) (before after : List (Step σ)) :
    world.run (before ++ after) = (world.run before).run after :=
  List.foldl_append

end World

structure CrowdedServer (σ : Type) where
  world : World σ
  crowd : List (List (Happening σ))

namespace CrowdedServer

variable {σ : Type} [Sink σ]

def move (server : CrowdedServer σ) (step : Step σ) : Option (Except Error Unit) × CrowdedServer σ :=
  let world := (server.crowd.headD []).foldl World.happen server.world
  ((world.step step).1, ⟨(world.step step).2, server.crowd.tail⟩)

def follow (server : CrowdedServer σ) : Nat → Except Error Unit × CrowdedServer σ
  | 0 => (.ok (), server)
  | moves + 1 =>
    match server.move .proceed with
    | (some answer, server) => (answer, server)
    | (none, server) => server.follow moves

def movesPerCall : Nat := 4

def perform (server : CrowdedServer σ) (call : ReportCall) : Except Error Unit × CrowdedServer σ :=
  match server.move (.call call) with
  | (some answer, server) => (answer, server)
  | (none, server) => server.follow movesPerCall

end CrowdedServer

instance [Sink σ] : Reporter (CrowdedServer σ) where
  isConnected server := server.world.server.isConnected
  needsTileNames server := server.world.server.needsTileNames
  perform := CrowdedServer.perform

section Alone

variable {σ : Type} [Sink σ]

theorem follow_proceeds (world : World σ) (moves : Nat) :
    CrowdedServer.follow ⟨world, []⟩ (moves + 1) =
      match world.proceed with
      | (some answer, next) => (answer, ⟨next, []⟩)
      | (none, next) => CrowdedServer.follow ⟨next, []⟩ moves := by
  simp only [CrowdedServer.follow, CrowdedServer.move, World.step, List.headD_nil, List.foldl_nil,
    List.tail_nil]
  rcases world.proceed with ⟨_ | answer, next⟩ <;> rfl

theorem asked_alone (server : Server σ) (log : List Dealing) (event : EventId) :
    let alone := CrowdedServer.follow ⟨⟨server, .asking event, log⟩, []⟩ 3
    let passed := if server.isConnected event then
        match server.withWriter (·.safepoint event) with
        | (.error error, server) => (Server.Passage.passed (.error error), server)
        | (.ok (), server) => server.recheck
      else (.passed (.ok ()), server)
    alone.1 = passed.1.outcome ∧ alone.2.world.server = passed.2 := by
  intro alone passed
  by_cases heard : server.isConnected event = true
  · have asked : World.proceed ⟨server, .asking event, log⟩ = (none, ⟨server, .telling event, log⟩) :=
      if_pos heard
    simp only [alone, passed, follow_proceeds _ 2, asked, if_pos heard]
    cases told : server.withWriter (·.safepoint event) with
    | mk outcome next =>
      have same : server.withWriter (·.perform (.safepoint event)) = (outcome, next) := told
      have proceeds : World.proceed ⟨server, .telling event, log⟩ =
          match World.tell ⟨server, .telling event, log⟩ (.safepoint event) with
          | (.error error, world) => (some (.error error), world)
          | (.ok (), world) => (none, { world with progress := .waiting }) := rfl
      simp only [World.tell, same] at proceeds
      cases outcome with
      | error error =>
        rw [follow_proceeds, proceeds]
        exact ⟨rfl, rfl⟩
      | ok done =>
        rw [follow_proceeds, proceeds]
        cases look : next.attachment.pass? with
        | some attachment =>
          simp only [follow_proceeds, World.proceed, Server.recheck, look]
          exact ⟨rfl, trivial⟩
        | none =>
          simp only [follow_proceeds, World.proceed, Server.recheck, look]
          exact ⟨rfl, rfl⟩
  · have asked : World.proceed ⟨server, .asking event, log⟩ = (some (.ok ()), ⟨server, .ready, log⟩) :=
      if_neg heard
    simp only [alone, passed, follow_proceeds, asked, if_neg heard]
    exact ⟨rfl, trivial⟩

-- With nothing in between the moves of a call are the call.
theorem performed_alone (server : Server σ) (log : List Dealing) (call : ReportCall) :
    let alone := CrowdedServer.perform ⟨⟨server, .ready, log⟩, []⟩ call
    alone.1 = (server.perform call).1 ∧ alone.2.world.server = (server.perform call).2 := by
  intro alone
  cases call with
  | beginSpace event space tileCount =>
    by_cases registered : server.isRegistered event = true
    · have taken := World.take_registered ⟨server, .ready, log⟩ (.report event space tileCount) registered
      simp only [alone, CrowdedServer.perform, CrowdedServer.move, World.step, World.call,
        Progress.isReady, if_true, List.headD_nil, List.foldl_nil, taken, Server.perform,
        Server.withEvent, if_pos registered, Server.sync_client_eq]
      exact ⟨rfl, rfl⟩
    · have refused := World.take_unregistered ⟨server, .ready, log⟩ (.report event space tileCount) registered
      simp [alone, CrowdedServer.perform, CrowdedServer.move, World.step, World.call, Progress.isReady,
        refused, Server.perform, Server.withEvent, registered, Opening.event]
  | safepoint event =>
    by_cases registered : server.isRegistered event = true
    · have taken := World.take_registered ⟨server, .ready, log⟩ (.safepoint event) registered
      simp only [alone, CrowdedServer.perform, CrowdedServer.move, World.step, World.call,
        Progress.isReady, if_true, List.headD_nil, List.foldl_nil, taken, Server.perform,
        Server.safepoint, Server.withEvent, if_pos registered, Server.sync_client_eq]
      exact asked_alone _ log event
    · have refused := World.take_unregistered ⟨server, .ready, log⟩ (.safepoint event) registered
      simp [alone, CrowdedServer.perform, CrowdedServer.move, World.step, World.call, Progress.isReady,
        refused, Server.perform, Server.safepoint, Server.withEvent, registered, Opening.event,
        Server.Passage.outcome]
  | _ => exact ⟨rfl, rfl⟩

end Alone

end HeapScope
