import HeapScope.Proofs.Report.Journal
import HeapScope.Proofs.Server.World

namespace HeapScope

open List (Perm)

variable {σ : Type}

namespace Server

def clients (server : Server σ) (taken : Option (Client σ)) : List (Client σ) :=
  taken.toList ++ server.incoming.toList ++ server.writer.toList ++ server.departed

def numbers (server : Server σ) (taken : Option (Client σ)) : List Nat :=
  (server.clients taken).map (·.generation)

structure Shifts (server : Server σ) (taken : Option (Client σ)) (next : Server σ)
    (takenAfter : Option (Client σ)) : Prop where
  grows : server.attachment.generation ≤ next.attachment.generation
  numbers : ∃ new : List Nat, Perm (next.numbers takenAfter) (new ++ server.numbers taken) ∧
    new.Nodup ∧ ∀ number ∈ new,
      server.attachment.generation < number ∧ number ≤ next.attachment.generation
  departed : ∃ leaving, next.departed = leaving ++ server.departed

variable {server next final : Server σ} {taken takenAfter takenLast : Option (Client σ)}

theorem shifts_trans (first : server.Shifts taken next takenAfter)
    (second : next.Shifts takenAfter final takenLast) : server.Shifts taken final takenLast := by
  obtain ⟨early, earlyPerm, earlyNodup, earlyBounds⟩ := first.numbers
  obtain ⟨late, latePerm, lateNodup, lateBounds⟩ := second.numbers
  obtain ⟨left, leftIs⟩ := first.departed
  obtain ⟨leaving, leavingIs⟩ := second.departed
  have grows := first.grows
  have growsLater := second.grows
  refine ⟨Nat.le_trans grows growsLater, ⟨late ++ early, ?_, ?_, ?_⟩, leaving ++ left, ?_⟩
  · rw [List.append_assoc]
    exact latePerm.trans (earlyPerm.append_left late)
  · refine List.nodup_append.mpr ⟨lateNodup, earlyNodup, ?_⟩
    intro number isLate other isEarly
    have above := (lateBounds number isLate).1
    have below := (earlyBounds other isEarly).2
    omega
  · intro number member
    rcases List.mem_append.mp member with isLate | isEarly
    · have bounds := lateBounds number isLate
      omega
    · have bounds := earlyBounds number isEarly
      omega
  · rw [leavingIs, leftIs, List.append_assoc]

theorem shifts_within (generation : next.attachment.generation = server.attachment.generation)
    (numbers : ∀ number, (next.numbers takenAfter).count number = (server.numbers taken).count number)
    (departed : ∃ leaving, next.departed = leaving ++ server.departed) :
    server.Shifts taken next takenAfter :=
  ⟨Nat.le_of_eq generation.symm, ⟨[], List.perm_iff_count.mpr numbers, List.nodup_nil, nofun⟩, departed⟩

theorem shifts_aside (generation : next.attachment.generation = server.attachment.generation)
    (incoming : next.incoming = server.incoming) (writer : next.writer = server.writer)
    (departed : next.departed = server.departed) : server.Shifts taken next taken :=
  shifts_within generation (fun number => by rw [numbers, clients, incoming, writer, departed]; rfl)
    ⟨[], departed⟩

theorem shifts_refl (server : Server σ) (taken : Option (Client σ)) : server.Shifts taken server taken :=
  shifts_aside rfl rfl rfl rfl

theorem publish_shifts (server : Server σ) (taken : Option (Client σ)) (recorder : Recorder σ) :
    server.Shifts taken (server.publish recorder) taken where
  grows := Nat.le_succ _
  numbers := by
    refine ⟨[server.attachment.generation + 1], ?_, by simp, ?_⟩
    · refine List.perm_iff_count.mpr fun number => ?_
      simp only [numbers, clients, publish, Attachment.attach, List.map_append, List.map_cons,
        List.map_nil, List.count_append, Option.toList_some]
      omega
    · intro number member
      rw [List.mem_singleton.mp member]
      exact ⟨Nat.lt_succ_self _, Nat.le_refl _⟩
  departed := ⟨server.incoming.toList, rfl⟩

theorem take_shifts (server : Server σ) :
    server.Shifts none { server with incoming := none } server.incoming := by
  refine shifts_within rfl (fun number => ?_) ⟨[], rfl⟩
  simp [numbers, clients]

theorem filter_count (writer : Option (Client σ)) (stays : Client σ → Bool) (number : Nat) :
    ((writer.filter stays).toList.map (·.generation)).count number +
        ((writer.filter (!stays ·)).toList.map (·.generation)).count number =
      (writer.toList.map (·.generation)).count number := by
  cases writer with
  | none => rfl
  | some client => cases held : stays client <;> simp [Option.filter, held]

theorem adopt_shifts (server : Server σ) (taken : Option (Client σ)) :
    server.Shifts taken (server.adopt taken) none := by
  unfold adopt
  cases taken with
  | none =>
    refine shifts_within rfl (fun number => ?_) ⟨_, rfl⟩
    have writers := filter_count server.writer server.isCurrent number
    simp only [numbers, clients, List.map_append, List.count_append]
    omega
  | some client =>
    dsimp only
    split
    · refine shifts_within rfl (fun number => ?_) ⟨_, rfl⟩
      simp only [numbers, clients, List.map_append, List.count_append, Option.toList_some,
        Option.toList_none, List.map_nil, List.count_nil]
      omega
    · refine shifts_within rfl (fun number => ?_) ⟨_, List.append_cons _ _ _⟩
      have writers := filter_count server.writer server.isCurrent number
      simp only [numbers, clients, List.map_append, List.count_append, Option.toList_some,
        Option.toList_none, List.map_nil, List.count_nil, List.map_cons, List.count_cons]
      omega

theorem withdraw_shifts (server : Server σ) (taken : Option (Client σ)) :
    server.Shifts taken server.withdraw taken := by
  refine shifts_within (Attachment.detach_generation _ _) (fun number => ?_) ⟨_, rfl⟩
  simp only [numbers, clients, withdraw, List.map_append, List.count_append, Option.toList_none,
    List.map_nil, List.count_nil]
  omega

theorem welcome_shifts (server : Server σ) (taken : Option (Client σ)) (recorder : Recorder σ)
    (reader : Except Transport Unit) :
    server.Shifts taken (server.welcome recorder reader).2 taken := by
  cases reader with
  | ok done => exact publish_shifts server taken recorder
  | error cause => exact shifts_trans (publish_shifts server taken recorder) (withdraw_shifts _ taken)

theorem apply_generation (attachment : Attachment) (command : Command) :
    (attachment.apply command).generation = attachment.generation := by
  cases command <;> simp only [Attachment.apply] <;> try split <;> rfl

theorem pass_generation {attachment passed : Attachment} (passes : attachment.pass? = some passed) :
    passed.generation = attachment.generation := by
  unfold Attachment.pass? at passes
  split at passes
  · cases passes
    rfl
  · split at passes <;> cases passes
    rfl

theorem with_writer_shifts (server : Server σ) (taken : Option (Client σ))
    (call : Recorder σ → Except Error Unit × Recorder σ) :
    server.Shifts taken (server.withWriter call).2 taken := by
  have replaced {client : Client σ} (is : server.writer = some client) (recorder : Recorder σ) :
      server.Shifts taken { server with writer := some { client with recorder } } taken :=
    shifts_within rfl (fun number => by simp [numbers, clients, is]) ⟨[], rfl⟩
  rcases server.with_writer_cases call with
    ⟨_, done⟩ | ⟨client, recorder, is, ⟨_, done⟩ | ⟨_, _, _, done⟩ | ⟨_, _, _, done⟩⟩
  · rw [done]
    exact shifts_refl server taken
  · rw [done]
    exact replaced is recorder
  · rw [done]
    refine shifts_within (Attachment.detach_generation _ _) (fun number => ?_) ⟨[_], rfl⟩
    simp only [numbers, clients, dropClient, endReader, is, List.map_append, List.count_append,
      Option.toList_some, Option.toList_none, List.map_nil, List.count_nil, List.map_cons,
      List.count_cons]
    omega
  · rw [done]
    exact replaced is recorder.discard

theorem stop_timer_shifts (server : Server σ) (taken : Option (Client σ)) (now : Duration) :
    server.Shifts taken (server.stopTimer now) taken := by
  unfold stopTimer
  split
  · exact shifts_refl server taken
  · refine shifts_within rfl (fun number => ?_) ⟨[], rfl⟩
    cases is : server.writer <;> simp [numbers, clients, is]

theorem reader_move_shifts (server : Server σ) (taken : Option (Client σ)) (generation : Nat) :
    server.Shifts taken (server.readerMove generation) taken := by
  unfold readerMove
  split
  · exact shifts_refl server taken
  · split
    · exact shifts_refl server taken
    · exact shifts_aside rfl rfl rfl rfl
    · exact shifts_aside (apply_generation _ _) rfl rfl rfl
    · exact shifts_aside (Attachment.detach_generation _ _) rfl rfl rfl

variable [Sink σ]

theorem dismiss_shifts (server : Server σ) (taken : Option (Client σ)) :
    server.Shifts taken server.dismissClients taken := by
  obtain ⟨readers, same⟩ := server.dismiss_clients_eq
  rw [same]
  refine shifts_within rfl (fun number => ?_) ⟨_, rfl⟩
  have numbered (clients : List (Client σ)) :
      (clients.map sayGoodbye).map (·.generation) = clients.map (·.generation) := by
    rw [List.map_map]
    rfl
  simp only [numbers, clients, List.map_append, List.count_append, Option.toList_none, List.map_nil,
    List.count_nil, numbered]
  omega

theorem acceptor_move_shifts (server : Server σ) (taken : Option (Client σ))
    (reader : Except Transport Unit) : server.Shifts taken (server.acceptorMove reader) taken := by
  have moves := server.acceptor_moves reader
  generalize server.acceptorMove reader = next at moves ⊢
  cases moves with
  | welcomes => exact shifts_trans (welcome_shifts server taken _ reader) (shifts_aside rfl rfl rfl rfl)
  | _ => exact shifts_aside rfl rfl rfl rfl

theorem start_shifts (server : Server σ) (taken : Option (Client σ)) (machine : Machine σ) :
    server.Shifts taken (server.start machine).2 taken := by
  have attends (address : SocketAddress) :
      server.Shifts taken (attend { server with address := some address } machine).2 taken := by
    have bound : server.Shifts taken { server with address := some address } taken :=
      shifts_aside rfl rfl rfl rfl
    rcases attend_cases { server with address := some address } machine with
      nobody | ⟨_, recorder, _, _, attended⟩
    · rw [nobody]
      exact bound
    · rw [attended]
      exact shifts_trans bound (welcome_shifts _ taken recorder machine.reader)
  rcases server.start_cases machine with same | ⟨_, address, fails | listens⟩
  · rw [same]
    exact shifts_refl server taken
  · rw [fails]
    exact attends address
  · rw [listens]
    exact shifts_trans (attends address) (shifts_aside rfl rfl rfl rfl)

end Server

def Dealing.Ends (dealing : Dealing) : Prop :=
  Journal.failedInTransport dealing.outcome = true ∨ dealing.action = .shutdown

def World.clients (world : World σ) : List (Client σ) := world.server.clients world.progress.taken

structure Goes (world next : World σ) : Prop where
  shifts : world.server.Shifts world.progress.taken next.server next.progress.taken
  logs : ∃ dealings, next.log = world.log ++ dealings ∧ ∀ dealing ∈ dealings,
    (∃ client ∈ world.server.writer.toList ++ world.server.incoming.toList,
      client.generation = dealing.generation) ∧
    (dealing.Ends → ∃ client ∈ next.server.departed, client.generation = dealing.generation)

variable {world next : World σ}

theorem goes_quietly
    (shifts : world.server.Shifts world.progress.taken next.server next.progress.taken)
    (log : next.log = world.log) : Goes world next :=
  ⟨shifts, [], log.trans (List.append_nil _).symm, fun _ member => (List.not_mem_nil member).elim⟩

theorem goes_nowhere (world : World σ) : Goes world world :=
  goes_quietly (Server.shifts_refl _ _) rfl

variable [Sink σ]

theorem tell_goes (world : World σ) (untaken : world.progress.taken = none) (call : ReportCall) :
    Goes world (world.tell call).2 := by
  refine ⟨?_, _, rfl, ?_⟩
  · rw [untaken]
    exact world.server.with_writer_shifts none (·.perform call)
  · intro dealing member
    obtain ⟨client, is, rfl⟩ := Option.map_eq_some_iff.mp (Option.mem_toList.mp member)
    refine ⟨⟨client, List.mem_append_left _ (Option.mem_toList.mpr is), rfl⟩, ?_⟩
    rintro (failed | goodbye)
    · change Journal.failedInTransport (client.recorder.perform call).1 = true at failed
      change ∃ gone ∈ (world.server.withWriter (·.perform call)).2.departed,
        gone.generation = client.generation
      rcases world.server.with_writer_cases (·.perform call) with
        ⟨none, _⟩ | ⟨other, recorder, same, ⟨answer, _⟩ | ⟨_, _, _, done⟩ | ⟨error, answer, kind, _⟩⟩
      · rw [is] at none
        cases none
      · cases is.symm.trans same
        rw [answer] at failed
        cases failed
      · cases is.symm.trans same
        rw [done]
        exact ⟨_, List.mem_cons_self, rfl⟩
      · cases is.symm.trans same
        rw [answer] at failed
        change error.isTransport = true at failed
        rw [kind] at failed
        cases failed
    · cases goodbye

theorem dismiss_goes (world : World σ) : Goes world world.dismiss := by
  refine ⟨world.server.dismiss_shifts world.progress.taken, _, rfl, ?_⟩
  intro dealing member
  obtain ⟨client, among, rfl⟩ := List.mem_map.mp member
  refine ⟨⟨client, among, rfl⟩, fun _ => ⟨Server.sayGoodbye client, ?_, rfl⟩⟩
  obtain ⟨readers, same⟩ := world.server.dismiss_clients_eq
  change Server.sayGoodbye client ∈ world.server.dismissClients.departed
  rw [same]
  exact List.mem_append_left _ (List.mem_map_of_mem among)

theorem call_goes (ready : world.progress = .ready) (call : ReportCall) :
    Goes world (world.call call).2 := by
  have untaken : world.progress.taken = none := by rw [ready]; rfl
  have move := world.call_called call
  generalize world.call call = made at move ⊢
  cases move with
  | refused opening unknown => exact goes_nowhere world
  | taken opening registered =>
    refine goes_quietly ?_ rfl
    rw [untaken]
    exact Server.take_shifts world.server
  | started now => exact goes_quietly (Server.shifts_aside rfl rfl rfl rfl) rfl
  | stopped now => exact goes_quietly (Server.stop_timer_shifts _ _ now) rfl
  | told call handsOn => exact tell_goes world untaken call

theorem proceed_goes (world : World σ) : Goes world world.proceed.2 := by
  have move := world.proceed_proceeds
  generalize world.proceed = moved at move ⊢
  cases move with
  | rests => exact goes_nowhere world
  | adopts taken opening is =>
    refine goes_quietly ?_ rfl
    rw [is]
    cases opening <;> exact Server.adopt_shifts world.server taken
  | begins event space tileCount is => exact tell_goes world (by rw [is]; rfl) _
  | hears event is =>
    refine goes_quietly ?_ rfl
    rw [is]
    exact Server.shifts_refl world.server none
  | passes event is =>
    refine goes_quietly ?_ rfl
    rw [is]
    exact Server.shifts_refl world.server none
  | fails event is error next told =>
    have goes := tell_goes world (by rw [is]; rfl) (.safepoint event)
    rw [told] at goes
    exact goes
  | tells event is next told =>
    have goes := tell_goes world (by rw [is]; rfl) (.safepoint event)
    rw [told] at goes
    have ready : next.progress = .ready := (congrArg (·.2.progress) told).symm
    have shifts := goes.shifts
    rw [ready] at shifts
    exact ⟨shifts, goes.logs⟩
  | resumes attachment is lets =>
    refine goes_quietly ?_ rfl
    rw [is]
    exact Server.shifts_aside (Server.pass_generation lets) rfl rfl rfl

theorem happen_goes (world : World σ) (happening : Happening σ) : Goes world (world.happen happening) := by
  cases happening with
  | arrive arrival =>
    refine goes_quietly ?_ rfl
    change world.server.Shifts _ (world.server.arrive arrival) _
    unfold Server.arrive
    split <;> exact Server.shifts_aside rfl rfl rfl rfl
  | accept reader => exact goes_quietly (Server.acceptor_move_shifts _ _ reader) rfl
  | receive generation bytes => exact goes_quietly (Server.shifts_aside rfl rfl rfl rfl) rfl
  | endData generation => exact goes_quietly (Server.shifts_aside rfl rfl rfl rfl) rfl
  | read generation => exact goes_quietly (Server.reader_move_shifts _ _ generation) rfl
  | change generation change =>
    refine goes_quietly (Server.shifts_within rfl (fun number => ?_) ⟨[], rfl⟩) rfl
    have same (client : Option (Client σ)) :
        (client.map fun client => if client.generation = generation then Server.mapSink change client
          else client).toList.map (·.generation) = client.toList.map (·.generation) := by
      cases client with
      | none => rfl
      | some client =>
        simp only [Option.map_some, Option.toList_some, List.map_cons, List.map_nil]
        split <;> rfl
    have taken : (world.happen (.change generation change)).progress.taken = world.progress.taken.map
        fun client => if client.generation = generation then Server.mapSink change client else client := by
      cases progress : world.progress <;> simp [World.happen, progress, Progress.mapTaken, Progress.taken]
    rw [taken]
    simp only [Server.numbers, Server.clients, World.happen, List.map_append, same]

theorem step_goes (world : World σ) (step : Step σ) : Goes world (world.step step).2 := by
  cases step with
  | call call =>
    rw [World.step]
    split
    · rename_i ready
      exact call_goes (Progress.ready_of_is_ready ready) call
    · exact goes_nowhere world
  | proceed => exact proceed_goes world
  | start machine =>
    rw [World.step]
    split
    · exact goes_quietly (Server.start_shifts _ _ machine) rfl
    · exact goes_nowhere world
  | closing move =>
    rw [World.step]
    split
    · cases move with
      | dismiss => exact dismiss_goes world
      | raise => exact goes_quietly (Server.shifts_aside rfl rfl rfl rfl) rfl
      | close => exact goes_quietly (Server.shifts_aside rfl rfl rfl rfl) rfl
      | wake => exact happen_goes world (.arrive .wakeUp)
      | join =>
        refine goes_quietly ?_ rfl
        change world.server.Shifts _ (world.server.joinAcceptor?.getD world.server) _
        unfold Server.joinAcceptor?
        split <;> exact Server.shifts_aside rfl rfl rfl rfl
    · exact goes_nowhere world
  | happens happening => exact happen_goes world happening

structure Numbered (world : World σ) : Prop where
  distinct : (world.clients.map (·.generation)).Nodup
  counted : ∀ number ∈ world.clients.map (·.generation), number ≤ world.server.attachment.generation
  ended : ∀ dealing ∈ world.log, dealing.Ends →
    ∃ client ∈ world.server.departed, client.generation = dealing.generation

omit [Sink σ] in
theorem goes_numbered (numbered : Numbered world) (goes : Goes world next) : Numbered next := by
  obtain ⟨new, perm, fresh, bounds⟩ := goes.shifts.numbers
  obtain ⟨leaving, departed⟩ := goes.shifts.departed
  obtain ⟨dealings, log, dealt⟩ := goes.logs
  have grows := goes.shifts.grows
  refine ⟨?_, ?_, ?_⟩
  · refine perm.nodup_iff.mpr (List.nodup_append.mpr ⟨fresh, numbered.distinct, ?_⟩)
    intro number isNew other isOld
    have above := (bounds number isNew).1
    have below := numbered.counted other isOld
    omega
  · intro number member
    rcases List.mem_append.mp (perm.mem_iff.mp member) with isNew | isOld
    · exact (bounds number isNew).2
    · exact Nat.le_trans (numbered.counted number isOld) grows
  · intro dealing member ends
    rw [log] at member
    rcases List.mem_append.mp member with before | now
    · obtain ⟨client, among, same⟩ := numbered.ended dealing before ends
      exact ⟨client, departed ▸ List.mem_append_right leaving among, same⟩
    · exact (dealt dealing now).2 ends

theorem run_numbered (numbered : Numbered world) (steps : List (Step σ)) :
    Numbered (world.run steps) := by
  induction steps generalizing world with
  | nil => exact numbered
  | cons step steps ih => exact ih (goes_numbered numbered (step_goes world step))

omit [Sink σ] in
theorem departed_apart (numbered : Numbered world) {client gone : Client σ}
    (among : client ∈ world.server.writer.toList ++ world.server.incoming.toList)
    (departed : gone ∈ world.server.departed) : client.generation ≠ gone.generation := by
  have distinct := numbered.distinct
  rw [World.clients, Server.clients, List.map_append] at distinct
  refine (List.nodup_append.mp distinct).2.2 _ ?_ _ (List.mem_map_of_mem departed)
  refine List.mem_map_of_mem ?_
  rcases List.mem_append.mp among with writes | waits
  · exact List.mem_append_right _ writes
  · exact List.mem_append_left _ (List.mem_append_right _ waits)

theorem run_lasts (numbered : Numbered world) (steps : List (Step σ)) :
    (∃ leaving, (world.run steps).server.departed = leaving ++ world.server.departed) ∧
      ∃ dealings, (world.run steps).log = world.log ++ dealings ∧
        ∀ dealing ∈ dealings, ∀ client ∈ world.server.departed,
          client.generation ≠ dealing.generation := by
  induction steps generalizing world with
  | nil => exact ⟨⟨[], rfl⟩, [], (List.append_nil _).symm, fun _ member => (List.not_mem_nil member).elim⟩
  | cons step steps ih =>
    have goes := step_goes world step
    obtain ⟨left, first⟩ := goes.shifts.departed
    obtain ⟨now, logged, dealt⟩ := goes.logs
    obtain ⟨⟨leaving, others⟩, later, log, apart⟩ := ih (goes_numbered numbered goes)
    refine ⟨⟨leaving ++ left, ?_⟩, now ++ later, ?_, ?_⟩
    · rw [List.append_assoc, ← first]
      exact others
    · rw [← List.append_assoc, ← logged]
      exact log
    · intro dealing member client departed
      rcases List.mem_append.mp member with early | late
      · obtain ⟨told, among, same⟩ := (dealt dealing early).1
        rw [← same]
        exact (departed_apart numbered among departed).symm
      · exact apart dealing late client (first ▸ List.mem_append_right left departed)

end HeapScope
