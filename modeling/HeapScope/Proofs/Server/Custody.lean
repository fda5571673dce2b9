import HeapScope.Channel
import HeapScope.Proofs.Report.Outcomes
import HeapScope.Proofs.Server.World

/- Who holds the clients of a server. A connection arrives, is greeted, becomes a client that waits, is
   taken by the collector, is its writer and departs; a custody says what is claimed in each of these
   places (`Custody`). What holds of the places is kept by everything that happens outside of the
   collector's calls to its writer (`happen_holds`, `shut_holds`, `start_holds`, `adopt_holds`), so that
   an invariant of the clients is left with those. -/
namespace HeapScope

structure Custody (σ : Type) where
  sound : σ → Prop
  changes : (σ → σ) → Prop
  fresh : Recorder σ → Prop
  pending : Client σ → Prop
  writing : Client σ → Prop
  gone : Client σ → Prop

namespace Custody

variable {σ : Type}

structure Lawful [Sink σ] (custody : Custody σ) (settings : Settings) (info : ServerInfo) : Prop where
  greets : ∀ (server : Server σ) (sink : σ) (recorder : Recorder σ), server.settings = settings →
    server.info = info → custody.sound sink → server.greet sink = (.ok (), recorder) →
    custody.fresh recorder
  publishes : ∀ generation recorder, custody.fresh recorder → custody.pending ⟨generation, recorder⟩
  lapses : ∀ client, custody.pending client → custody.gone client
  retires : ∀ client, custody.writing client → custody.gone client
  changesPending : ∀ change client, custody.changes change → custody.pending client →
    custody.pending (Server.mapSink change client)
  changesWriting : ∀ change client, custody.changes change → custody.writing client →
    custody.writing (Server.mapSink change client)

def Accepts (custody : Custody σ) : Acceptor σ → Prop
  | .accepted (.client sink) => custody.sound sink
  | .admitted sink => custody.sound sink
  | .greeting sink => custody.sound sink
  | .greeted recorder => custody.fresh recorder
  | _ => True

structure Holds (custody : Custody σ) (settings : Settings) (info : ServerInfo) (server : Server σ)
    (taken : Option (Client σ)) : Prop where
  settings : server.settings = settings
  info : server.info = info
  arriving : ∀ sink, .client sink ∈ server.backlog → custody.sound sink
  accepting : ∀ acceptor, server.acceptor = some acceptor → custody.Accepts acceptor
  incoming : ∀ client, server.incoming = some client → custody.pending client
  taken : ∀ client, taken = some client → custody.pending client
  writer : ∀ client, server.writer = some client → custody.writing client
  departed : ∀ client ∈ server.departed, custody.gone client

def FairHappening (custody : Custody σ) : Happening σ → Prop
  | .arrive (.client sink) => custody.sound sink
  | .change _ change => custody.changes change
  | _ => True

def FairMachine (custody : Custody σ) (machine : Server.Machine σ) : Prop :=
  ∀ sink, machine.first = .ok sink → custody.sound sink

def FairStep (custody : Custody σ) : Step σ → Prop
  | .start machine => custody.FairMachine machine
  | .happens happening => custody.FairHappening happening
  | _ => True

end Custody

theorem greet_ok {σ : Type} [Sink σ] {server : Server σ} {sink : σ} {recorder : Recorder σ}
    (greeted : server.greet sink = (.ok (), recorder)) :
    ∃ hello next, Wire.encode (.hello server.info) = .ok hello ∧
      Recorder.flushFrame { Recorder.ofSink sink with frame := ⟨hello, none⟩ } = (.ok (), next) ∧
      recorder = { next with frameLimit := server.settings.frameLimit } := by
  unfold Server.greet Recorder.withHello at greeted
  dsimp only at greeted
  cases encoded : Wire.encode (.hello server.info) with
  | error error =>
    have refused : (Recorder.ofSink sink).frame.append (.hello server.info) = .error error := by
      simp only [Recorder.ofSink, FrameBuilder.empty, FrameBuilder.append, FrameBuilder.checkFilled, encoded]
      rfl
    rw [refused] at greeted
    cases greeted
  | ok hello =>
    have appended : (Recorder.ofSink sink).frame.append (.hello server.info) = .ok ⟨hello, none⟩ :=
      FrameBuilder.append_closed [] hello _ encoded
    rw [appended] at greeted
    simp only [Recorder.write] at greeted
    cases flushed : Recorder.flushFrame { Recorder.ofSink sink with frame := ⟨hello, none⟩ } with
    | mk outcome next =>
      rw [flushed] at greeted
      cases greeted
      exact ⟨hello, next, rfl, flushed, rfl⟩

structure Server.Aside {σ : Type} (server next : Server σ) : Prop where
  settings : next.settings = server.settings
  info : next.info = server.info
  backlog : next.backlog = server.backlog
  acceptor : next.acceptor = server.acceptor
  incoming : next.incoming = server.incoming
  writer : next.writer = server.writer
  departed : next.departed = server.departed

structure Server.Fresh {σ : Type} (settings : Settings) (events : List String) (server : Server σ) :
    Prop where
  settings : server.settings = settings
  events : server.info.events = events
  attachment : server.attachment = .start
  incoming : server.incoming = none
  writer : server.writer = none
  departed : server.departed = []
  acceptor : server.acceptor = none
  backlog : server.backlog = []

namespace Server

variable {σ : Type} {settings : Settings} {events : List String}

theorem make_fresh {build : Build} {made : Server σ} (created : make settings events build = .ok made) :
    made.Fresh settings events ∧ 64 ≤ settings.frameLimit := by
  unfold make at created
  cases valid : settings.validate with
  | error error =>
    rw [valid] at created
    cases created
  | ok done =>
    rw [valid] at created
    cases created
    refine ⟨⟨rfl, rfl, rfl, rfl, rfl, rfl, rfl, rfl⟩, ?_⟩
    unfold Settings.validate at valid
    split at valid
    · cases valid
    split at valid
    · cases valid
    · rename_i long
      exact Nat.not_lt.mp long

theorem add_spaces_fresh [Sink σ] {made server : Server σ} (fresh : made.Fresh settings events)
    {spaces : List SpaceDescriptor} (added : Channel.addSpaces made spaces = .ok server) :
    server.Fresh settings events := by
  unfold Channel.addSpaces at added
  induction spaces generalizing made with
  | nil =>
    cases added
    exact fresh
  | cons space spaces ih =>
    rw [List.foldlM_cons] at added
    obtain ⟨next, first, others⟩ := Wire.except_bind_ok added
    refine ih ?_ others
    unfold addSpace at first
    split at first
    · cases first
    split at first
    · cases first
    · cases first
      exact { fresh with }

end Server

namespace Custody

variable {σ : Type} {custody : Custody σ} {settings : Settings} {info : ServerInfo}
  {server : Server σ} {taken : Option (Client σ)}

theorem fresh_holds (custody : Custody σ) {events : List String} (fresh : server.Fresh settings events) :
    custody.Holds settings server.info server none where
  settings := fresh.settings
  info := rfl
  arriving sink member := by
    rw [fresh.backlog] at member
    cases member
  accepting acceptor is := by
    rw [fresh.acceptor] at is
    cases is
  incoming client is := by
    rw [fresh.incoming] at is
    cases is
  taken client is := by cases is
  writer client is := by
    rw [fresh.writer] at is
    cases is
  departed client member := by
    rw [fresh.departed] at member
    cases member

theorem aside_holds (holds : custody.Holds settings info server taken) {next : Server σ}
    (aside : server.Aside next) : custody.Holds settings info next taken where
  settings := aside.settings.trans holds.settings
  info := aside.info.trans holds.info
  arriving := aside.backlog ▸ holds.arriving
  accepting := aside.acceptor ▸ holds.accepting
  incoming := aside.incoming ▸ holds.incoming
  taken := holds.taken
  writer := aside.writer ▸ holds.writer
  departed := aside.departed ▸ holds.departed

theorem reader_move_aside (server : Server σ) (generation : Nat) :
    server.Aside (server.readerMove generation) := by
  obtain ⟨attachment, readers, same⟩ := server.reader_move_eq generation
  rw [same]
  exact ⟨rfl, rfl, rfl, rfl, rfl, rfl, rfl⟩

theorem map_taken (progress : Progress σ) (change : Client σ → Client σ) :
    (progress.mapTaken change).taken = progress.taken.map change := by
  cases progress <;> rfl

theorem happen_call [Sink σ] (world : World σ) (happening : Happening σ) :
    (world.happen happening).progress.call? = world.progress.call? := by
  cases happening with
  | change generation change =>
    cases progress : world.progress <;> simp only [World.happen, progress] <;> rfl
  | _ => rfl

theorem arrive_holds (holds : custody.Holds settings info server taken) (arrival : Arrival σ)
    (sound : ∀ sink, arrival = .client sink → custody.sound sink) :
    custody.Holds settings info (server.arrive arrival) taken := by
  unfold Server.arrive
  split
  · refine { holds with arriving := ?_ }
    intro sink member
    rcases List.mem_append.mp member with earlier | last
    · exact holds.arriving sink earlier
    · exact sound sink (List.mem_singleton.mp last).symm
  · exact holds

theorem replaced_holds (holds : custody.Holds settings info server taken) (writing gone : Client σ → Prop)
    (writer : Option (Client σ)) (departed : List (Client σ))
    (writes : ∀ client, writer = some client → writing client)
    (leaves : ∀ client ∈ departed, gone client) :
    Holds { custody with writing, gone } settings info { server with writer, departed } taken where
  settings := holds.settings
  info := holds.info
  arriving := holds.arriving
  accepting := by
    intro acceptor is
    have accepts := holds.accepting acceptor is
    unfold Accepts at accepts ⊢
    split at accepts <;> exact accepts
  incoming := holds.incoming
  taken := holds.taken
  writer := writes
  departed := leaves

theorem stop_timer_holds (holds : custody.Holds settings info server taken) (now : Duration)
    (charges : ∀ client length, custody.writing client →
      custody.writing { client with recorder := client.recorder.addCompensation length }) :
    custody.Holds settings info (server.stopTimer now) taken := by
  unfold Server.stopTimer
  split
  · exact holds
  · refine { holds with writer := ?_ }
    intro charged is
    obtain ⟨client, found, rfl⟩ := Option.map_eq_some_iff.mp is
    exact charges client _ (holds.writer client found)

theorem shut_holds [Sink σ] {world : World σ}
    (holds : custody.Holds settings info world.server world.progress.taken) (move : Closing)
    (behind : move ≠ .dismiss) :
    custody.Holds settings info (world.shut move).server (world.shut move).progress.taken := by
  cases move with
  | dismiss => exact absurd rfl behind
  | raise => exact aside_holds holds ⟨rfl, rfl, rfl, rfl, rfl, rfl, rfl⟩
  | close => exact aside_holds holds ⟨rfl, rfl, rfl, rfl, rfl, rfl, rfl⟩
  | wake => exact arrive_holds holds .wakeUp fun sink is => by cases is
  | join =>
    change custody.Holds settings info (world.server.joinAcceptor?.getD world.server) world.progress.taken
    unfold Server.joinAcceptor?
    split
    · exact holds
    · exact { holds with
        arriving := fun sink member => by cases member
        accepting := fun acceptor is => by cases is }
    · exact holds

theorem take_holds (holds : custody.Holds settings info server taken) :
    custody.Holds settings info { server with incoming := none } server.incoming :=
  { holds with
    incoming := fun client is => by cases is
    taken := holds.incoming }

theorem dismiss_holds [Sink σ] (holds : custody.Holds settings info server taken)
    (writing : Client σ → Prop) (dismisses : ∀ client ∈ server.writer.toList ++ server.incoming.toList,
      custody.gone (Server.sayGoodbye client)) :
    Holds { custody with writing } settings info server.dismissClients taken := by
  obtain ⟨readers, same⟩ := server.dismiss_clients_eq
  rw [same]
  have left : custody.Holds settings info { server with incoming := none, readers } taken := by
    refine { holds with incoming := ?_ }
    intro client none
    cases none
  refine replaced_holds left writing custody.gone none _ ?_ ?_
  · intro client none
    cases none
  · intro client member
    rcases List.mem_append.mp member with now | before
    · obtain ⟨told, found, rfl⟩ := List.mem_map.mp now
      exact dismisses told found
    · exact holds.departed client before

theorem with_writer_holds (holds : custody.Holds settings info server taken)
    (writing : Client σ → Prop) (call : Recorder σ → Except Error Unit × Recorder σ)
    (accepts : ∀ client recorder, server.writer = some client →
      call client.recorder = (.ok (), recorder) → writing { client with recorder })
    (loses : ∀ client recorder error, server.writer = some client → error.isTransport = true →
      call client.recorder = (.error error, recorder) → custody.gone { client with recorder })
    (discards : ∀ client recorder error, server.writer = some client → error.isTransport = false →
      call client.recorder = (.error error, recorder) →
      writing { client with recorder := recorder.discard }) :
    Holds { custody with writing } settings info (server.withWriter call).2 taken := by
  have replaced (writer : Client σ) (writes : writing writer) :
      Holds { custody with writing } settings info { server with writer := some writer } taken :=
    replaced_holds holds writing custody.gone (some writer) server.departed
      (fun client is => Option.some.inj is ▸ writes) holds.departed
  rcases server.with_writer_cases call with
    ⟨none, done⟩ | ⟨client, recorder, is, ⟨answer, done⟩ | ⟨error, answer, kind, done⟩ |
      ⟨error, answer, kind, done⟩⟩
  · rw [done]
    refine replaced_holds holds writing custody.gone server.writer server.departed ?_ holds.departed
    intro client is
    rw [none] at is
    cases is
  · rw [done]
    exact replaced _ (accepts client recorder is answer)
  · rw [done]
    refine aside_holds (replaced_holds holds writing custody.gone none
      ({ client with recorder } :: server.departed) ?_ ?_) ⟨rfl, rfl, rfl, rfl, rfl, rfl, rfl⟩
    · intro other none
      cases none
    · intro other member
      rcases List.mem_cons.mp member with rfl | before
      · exact loses client recorder error is kind answer
      · exact holds.departed other before
  · rw [done]
    exact replaced _ (discards client recorder error is kind answer)

section Moves

variable [Sink σ] (lawful : custody.Lawful settings info)
include lawful

theorem publish_holds (holds : custody.Holds settings info server taken) (recorder : Recorder σ)
    (fresh : custody.fresh recorder) :
    custody.Holds settings info (server.publish recorder) taken where
  settings := holds.settings
  info := holds.info
  arriving := holds.arriving
  accepting := holds.accepting
  incoming client is := by
    cases is
    exact lawful.publishes _ recorder fresh
  taken := holds.taken
  writer := holds.writer
  departed := by
    intro client member
    rcases List.mem_append.mp member with replaced | before
    · exact lawful.lapses client (holds.incoming client (Option.mem_toList.mp replaced))
    · exact holds.departed client before

theorem welcome_holds (holds : custody.Holds settings info server taken) (recorder : Recorder σ)
    (fresh : custody.fresh recorder) (reader : Except Transport Unit) :
    custody.Holds settings info (server.welcome recorder reader).2 taken := by
  have published := publish_holds lawful holds recorder fresh
  cases reader with
  | ok done => exact published
  | error cause =>
    refine { published with incoming := ?_, departed := ?_ }
    · intro client none
      cases none
    · intro client member
      rcases List.mem_append.mp member with withdrawn | before
      · exact lawful.lapses client (published.incoming client (Option.mem_toList.mp withdrawn))
      · exact published.departed client before

theorem acceptor_move_holds (holds : custody.Holds settings info server taken)
    (reader : Except Transport Unit) :
    custody.Holds settings info (server.acceptorMove reader) taken := by
  have moved {next : Server σ} (before : custody.Holds settings info next taken)
      (acceptor : Acceptor σ) (accepts : custody.Accepts acceptor) :
      custody.Holds settings info { next with acceptor := some acceptor } taken :=
    { before with accepting := fun other is => Option.some.inj is ▸ accepts }
  have moves := server.acceptor_moves reader
  generalize server.acceptorMove reader = after at moves ⊢
  cases moves with
  | rests => exact holds
  | @accepts arrival backlog waits queued =>
    have arriving : ∀ sink, .client sink ∈ arrival :: backlog → custody.sound sink :=
      queued ▸ holds.arriving
    have left : custody.Holds settings info { server with backlog } taken :=
      { holds with arriving := fun sink member => arriving sink (List.mem_cons_of_mem arrival member) }
    refine moved left (.accepted arrival) ?_
    cases arrival with
    | client sink => exact arriving sink List.mem_cons_self
    | _ => trivial
  | stops | misses | refuses | loses => exact moved holds _ trivial
  | @admits sink is => exact moved holds (.admitted sink) (holds.accepting (.accepted (.client sink)) is)
  | @turns sink is => exact moved holds (.greeting sink) (holds.accepting (.admitted sink) is)
  | greets greets greeted =>
    have accepts := holds.accepting _ greets
    exact moved holds _ (lawful.greets server _ _ holds.settings holds.info accepts greeted)
  | welcomes greeted =>
    exact moved (welcome_holds lawful holds _ (holds.accepting _ greeted) reader) .waiting trivial

theorem start_holds (holds : custody.Holds settings info server taken) (machine : Server.Machine σ)
    (fair : custody.FairMachine machine) :
    custody.Holds settings info (server.start machine).2 taken := by
  have attends (address : SocketAddress) : custody.Holds settings info
      (Server.attend { server with address := some address } machine).2 taken := by
    have bound : custody.Holds settings info { server with address := some address } taken :=
      aside_holds holds ⟨rfl, rfl, rfl, rfl, rfl, rfl, rfl⟩
    rcases Server.attend_cases { server with address := some address } machine with
      nobody | ⟨sink, recorder, first, greeted, attended⟩
    · rw [nobody]
      exact bound
    · rw [attended]
      exact welcome_holds lawful bound recorder
        (lawful.greets _ sink recorder bound.settings bound.info (fair sink first) greeted) machine.reader
  rcases server.start_cases machine with same | ⟨_, address, fails | listens⟩
  · rw [same]
    exact holds
  · rw [fails]
    exact attends address
  · rw [listens]
    exact { attends address with accepting := fun other is => Option.some.inj is ▸ trivial }

theorem happen_holds {world : World σ}
    (holds : custody.Holds settings info world.server world.progress.taken) (happening : Happening σ)
    (fair : custody.FairHappening happening) :
    custody.Holds settings info (world.happen happening).server
      (world.happen happening).progress.taken := by
  cases happening with
  | arrive arrival =>
    refine arrive_holds holds arrival ?_
    rintro sink rfl
    exact fair
  | accept reader => exact acceptor_move_holds lawful holds reader
  | receive generation bytes => exact aside_holds holds ⟨rfl, rfl, rfl, rfl, rfl, rfl, rfl⟩
  | endData generation => exact aside_holds holds ⟨rfl, rfl, rfl, rfl, rfl, rfl, rfl⟩
  | read generation => exact aside_holds holds (reader_move_aside world.server generation)
  | change generation change =>
    have pending {client : Client σ} (is : custody.pending client) : custody.pending
        (if client.generation = generation then Server.mapSink change client else client) := by
      split
      · exact lawful.changesPending change client fair is
      · exact is
    have writing {client : Client σ} (is : custody.writing client) : custody.writing
        (if client.generation = generation then Server.mapSink change client else client) := by
      split
      · exact lawful.changesWriting change client fair is
      · exact is
    refine { holds with incoming := ?_, taken := ?_, writer := ?_ }
    · intro next is
      obtain ⟨client, found, rfl⟩ := Option.map_eq_some_iff.mp is
      exact pending (holds.incoming client found)
    · intro next is
      rw [World.happen, map_taken] at is
      obtain ⟨client, found, rfl⟩ := Option.map_eq_some_iff.mp is
      exact pending (holds.taken client found)
    · intro next is
      obtain ⟨client, found, rfl⟩ := Option.map_eq_some_iff.mp is
      exact writing (holds.writer client found)

theorem adopt_holds (holds : custody.Holds settings info server taken)
    (adopts : ∀ client, custody.pending client → custody.writing client) :
    custody.Holds settings info (server.adopt taken) none := by
  have placed (writer : Option (Client σ)) (leaving : List (Client σ))
      (writes : ∀ client, writer = some client → custody.writing client)
      (leaves : ∀ client ∈ leaving, custody.gone client) :
      custody.Holds settings info
        { server with writer, departed := leaving ++ server.departed } none := by
    refine replaced_holds { holds with taken := fun client is => by cases is } custody.writing
      custody.gone writer (leaving ++ server.departed) writes ?_
    intro client member
    rcases List.mem_append.mp member with now | before
    · exact leaves client now
    · exact holds.departed client before
  have stays : ∀ client, server.writer.filter server.isCurrent = some client → custody.writing client :=
    fun client is => holds.writer client (Option.filter_eq_some_iff.mp is).1
  have leaves : ∀ client ∈ (server.writer.filter (!server.isCurrent ·)).toList, custody.gone client :=
    fun client member => lawful.retires client
      (holds.writer client (Option.filter_eq_some_iff.mp (Option.mem_toList.mp member)).1)
  unfold Server.adopt
  cases taken with
  | none => exact placed _ _ stays leaves
  | some client =>
    have waits := holds.taken client rfl
    dsimp only
    split
    · refine placed (some client) server.writer.toList ?_ ?_
      · intro other is
        exact Option.some.inj is ▸ adopts client waits
      · exact fun other member => lawful.retires other (holds.writer other (Option.mem_toList.mp member))
    · rw [List.append_cons]
      refine placed _ _ stays ?_
      intro other member
      rcases List.mem_append.mp member with leaving | last
      · exact leaves other leaving
      · exact List.mem_singleton.mp last ▸ lawful.lapses client waits

end Moves

end Custody

end HeapScope
