import HeapScope.Proofs.Server.Announcing
import HeapScope.Proofs.Server.Farewell

/- What a start that fails leaves behind. The address is noted before the first client is waited for and
   before the threads are started, and it stays when one of these fails (`Server.Stranded`). -/
namespace HeapScope

variable {σ : Type} [Sink σ]

namespace Server

omit [Sink σ] in
def Binds (server : Server σ) (machine : Machine σ) (address : SocketAddress) : Prop :=
  ∃ wanted, server.settings.socketAddress = .ok wanted ∧ machine.bind wanted = .ok address

inductive Stranded (server : Server σ) (machine : Machine σ) (address : SocketAddress) :
    Error → Server σ → Prop where
  | unmet {cause : Transport} (waits : server.settings.waitForClient = true)
    (failed : machine.first = .error cause) :
    Stranded server machine address (.transport cause) { server with address := some address }
  | ungreeted {sink : σ} {error : Error} {recorder : Recorder σ}
    (waits : server.settings.waitForClient = true) (comes : machine.first = .ok sink)
    (refused : server.greet sink = (.error error, recorder)) :
    Stranded server machine address error { server with address := some address }
  -- The client has attached, and leaves since nobody reads from it.
  | unread {sink : σ} {recorder : Recorder σ} {cause : Transport}
    (waits : server.settings.waitForClient = true) (comes : machine.first = .ok sink)
    (greeted : server.greet sink = (.ok (), recorder)) (failed : machine.reader = .error cause) :
    Stranded server machine address (.transport cause)
      (publish { server with address := some address } recorder).withdraw
  | unheard {cause : Transport} (alone : server.settings.waitForClient = false)
    (failed : machine.acceptor = .error cause) :
    Stranded server machine address (.transport cause) { server with address := some address }
  -- The client stays attached, and no other one is accepted.
  | unfollowed {sink : σ} {recorder : Recorder σ} {cause : Transport}
    (waits : server.settings.waitForClient = true) (comes : machine.first = .ok sink)
    (greeted : server.greet sink = (.ok (), recorder)) (reads : machine.reader = .ok ())
    (failed : machine.acceptor = .error cause) :
    Stranded server machine address (.transport cause)
      (publish { server with address := some address } recorder)

inductive StartFails (server : Server σ) (machine : Machine σ) : Error → Server σ → Prop where
  | again (started : server.address.isSome = true) : StartFails server machine .alreadyStarted server
  | nowhere {error : Error} (unstarted : server.address = none)
    (bad : server.settings.socketAddress = .error error) : StartFails server machine error server
  | unbound {wanted : SocketAddress} {cause : Transport} (unstarted : server.address = none)
    (named : server.settings.socketAddress = .ok wanted) (refused : machine.bind wanted = .error cause) :
    StartFails server machine (.transport cause) server
  | stranded {address : SocketAddress} {error : Error} {next : Server σ}
    (unstarted : server.address = none) (binds : server.Binds machine address)
    (strands : server.Stranded machine address error next) : StartFails server machine error next

structure Serves (server : Server σ) (machine : Machine σ) : Prop where
  client : server.settings.waitForClient = true →
    ∃ sink, machine.first = .ok sink ∧ (server.greet sink).1 = .ok () ∧ machine.reader = .ok ()
  acceptor : machine.acceptor = .ok ()

structure Unstarted (server : Server σ) : Prop where
  unnamed : server.localAddress = .error .notStarted
  registers : ∀ space, space.id ∉ server.info.spaces.map (·.id) →
    server.addSpace space = .ok (server.withSpace space)
  tries : ∀ machine, (server.start machine).1 ≠ .error .alreadyStarted
  starts : ∀ machine address, server.Binds machine address → server.Serves machine →
    (server.start machine).1 = .ok address

structure StartedAt (server : Server σ) (address : SocketAddress) : Prop where
  named : server.localAddress = .ok address
  closed : ∀ space, server.addSpace space = .error .alreadyStarted
  refuses : ∀ machine, server.start machine = (.error .alreadyStarted, server)

variable {server next : Server σ} {machine : Machine σ} {address : SocketAddress} {error : Error}

theorem bound_start (unstarted : server.address = none) (binds : server.Binds machine address) :
    server.start machine =
      match attend { server with address := some address } machine, machine.acceptor with
      | (.error error, attended), _ => (.error error, attended)
      | (.ok (), attended), .error cause => (.error (.transport cause), attended)
      | (.ok (), attended), .ok () => (.ok address, { attended with acceptor := some .waiting }) := by
  obtain ⟨wanted, named, bound⟩ := binds
  simp only [start, unstarted, named, bound]
  rfl

theorem bound_start_fails (unstarted : server.address = none) (binds : server.Binds machine address)
    (failed : server.start machine = (.error error, next)) :
    server.Stranded machine address error next := by
  rw [bound_start unstarted binds] at failed
  have attended := attend_attended { server with address := some address } machine
  generalize attend { server with address := some address } machine = result at attended failed
  -- Behind a client that was attended, or that nobody asked for, only the acceptor can fail.
  cases attended with
  | unasked alone =>
    cases listens : machine.acceptor with
    | error cause =>
      rw [listens] at failed
      cases failed
      exact .unheard alone listens
    | ok started =>
      rw [listens] at failed
      cases failed
  | unmet waits lost =>
    cases failed
    exact .unmet waits lost
  | ungreeted waits comes refused =>
    cases failed
    exact .ungreeted waits comes refused
  | admitted waits comes greeted =>
    cases reads : machine.reader with
    | error cause =>
      rw [reads] at failed
      cases failed
      exact .unread waits comes greeted reads
    | ok started =>
      cases listens : machine.acceptor with
      | error cause =>
        rw [reads, listens] at failed
        cases failed
        exact .unfollowed waits comes greeted reads listens
      | ok started =>
        rw [reads, listens] at failed
        cases failed

theorem stranded_start (unstarted : server.address = none) (binds : server.Binds machine address)
    (strands : server.Stranded machine address error next) :
    server.start machine = (.error error, next) := by
  rw [bound_start unstarted binds]
  have greets (sink : σ) : greet { server with address := some address } sink = server.greet sink := rfl
  cases strands with
  | unmet waits failed => simp [attend, waits, failed]
  | ungreeted waits comes refused => simp [attend, attach, waits, comes, greets, refused]
  | unread waits comes greeted failed => simp [attend, attach, welcome, waits, comes, greets, greeted, failed]
  | unheard alone failed => simp [attend, alone, failed]
  | unfollowed waits comes greeted reads failed =>
    simp [attend, attach, welcome, waits, comes, greets, greeted, reads, failed]

theorem start_fails_iff :
    server.start machine = (.error error, next) ↔ server.StartFails machine error next := by
  constructor
  · intro failed
    by_cases started : server.address.isSome = true
    · rw [start, if_pos started] at failed
      cases failed
      exact .again started
    have unstarted : server.address = none := by simpa using started
    cases wanted : server.settings.socketAddress with
    | error problem =>
      rw [start, if_neg started, wanted] at failed
      cases failed
      exact .nowhere unstarted wanted
    | ok wish =>
      cases bound : machine.bind wish with
      | error cause =>
        simp only [start, if_neg started, wanted, bound] at failed
        cases failed
        exact .unbound unstarted wanted bound
      | ok address =>
        have binds : server.Binds machine address := ⟨wish, wanted, bound⟩
        exact .stranded unstarted binds (bound_start_fails unstarted binds failed)
  · intro fails
    cases fails with
    | again started => rw [start, if_pos started]
    | nowhere unstarted bad => simp [start, unstarted, bad]
    | unbound unstarted named refused => simp [start, unstarted, named, refused]
    | stranded unstarted binds strands => exact stranded_start unstarted binds strands

omit [Sink σ] in
theorem socket_address_error (settings : Settings) (bad : settings.socketAddress = .error error) :
    error ≠ .alreadyStarted := by
  unfold Settings.socketAddress at bad
  split at bad
  · cases bad
  · cases bad
    nofun

theorem greet_fails {sink : σ} (failed : (server.greet sink).1 = .error error) :
    error.isTransport = true ∨ error.isOversize = true ∨ refusedAsLong (.error error) = true := by
  cases encoded : Wire.encode (.hello server.info) with
  | error other =>
    obtain ⟨recorder, refused⟩ := greet_refused encoded sink
    rw [refused] at failed
    cases failed
    exact .inr (.inl (Wire.writes_refused (encoded ▸ Wire.hello_writes server.info)))
  | ok hello =>
    rw [greet_flushes encoded] at failed
    rcases flush_frame_fails _ rfl failed with transport | long
    · exact .inl transport
    · exact .inr (.inr long)

theorem stranded_error (strands : server.Stranded machine address error next) :
    error.isTransport = true ∨ error.isOversize = true ∨ refusedAsLong (.error error) = true := by
  cases strands with
  | unmet | unread | unheard | unfollowed => exact .inl rfl
  | ungreeted _ _ refused => exact greet_fails (congrArg Prod.fst refused)

theorem stranded_address (strands : server.Stranded machine address error next) :
    next.address = some address := by
  cases strands <;> rfl

theorem start_succeeds (unstarted : server.address = none) (binds : server.Binds machine address)
    (serves : server.Serves machine) : (server.start machine).1 = .ok address := by
  rw [bound_start unstarted binds]
  by_cases waits : server.settings.waitForClient = true
  · obtain ⟨sink, comes, greeted, reads⟩ := serves.client waits
    cases greets : server.greet sink with
    | mk outcome recorder =>
      rw [greets] at greeted
      cases greeted
      have same : greet { server with address := some address } sink = (.ok (), recorder) := greets
      simp [attend, attach, welcome, waits, comes, same, reads, serves.acceptor]
  · simp [attend, waits, serves.acceptor]

theorem unstarted_of_address (unstarted : server.address = none) : server.Unstarted where
  unnamed := by rw [localAddress, unstarted]
  registers space new := by
    rcases add_space_cases server space unstarted with ⟨_, added⟩ | ⟨known, _⟩
    · exact added
    · exact absurd known new
  tries machine answer := by
    obtain ⟨after, failed⟩ : ∃ after, server.start machine = (.error .alreadyStarted, after) :=
      ⟨_, Prod.ext answer rfl⟩
    cases start_fails_iff.mp failed with
    | again started => simp [unstarted] at started
    | nowhere _ bad => exact socket_address_error _ bad rfl
    | stranded _ _ strands => rcases stranded_error strands with other | other | other <;> cases other
  starts _ _ := start_succeeds unstarted

theorem started_at_address (bound : server.address = some address) :
    server.StartedAt address where
  named := by rw [localAddress, bound]
  closed space := by rw [addSpace, bound]; rfl
  refuses machine := by rw [start, bound]; rfl

end Server

theorem replicated_size (n : Nat) : (String.ofList (List.replicate n 'a')).utf8ByteSize = n := by
  induction n with
  | zero => rfl
  | succ n ih =>
    have letter : Char.utf8Size 'a' = 1 := by decide
    rw [List.replicate_succ, String.ofList_cons, String.utf8ByteSize_append,
      String.utf8ByteSize_singleton, ih, letter, Nat.add_comm]

theorem run_address {world : World σ} {address : SocketAddress}
    (bound : world.server.address = some address) (steps : List (Step σ)) :
    (world.run steps).server.address = some address := by
  induction steps generalizing world with
  | nil => exact bound
  | cons step steps ih =>
    have late : world.Late step := .inl (by simp [bound])
    exact ih ((step_address late).trans bound)

theorem failed_start_forgotten_unless_bound (server next : Server σ) (machine : Server.Machine σ)
    (error : Error) (failed : server.start machine = (.error error, next)) :
    (next = server ∧
      (server.address = none → (∀ address, ¬server.Binds machine address) ∧ next.Unstarted)) ∨
    (server.address = none ∧ ∃ address, server.Binds machine address ∧
      server.Stranded machine address error next ∧
      ∀ steps, ((World.ofServer next).run steps).server.StartedAt address) := by
  cases Server.start_fails_iff.mp failed with
  | again started =>
    refine .inl ⟨rfl, fun unstarted => ?_⟩
    rw [unstarted] at started
    cases started
  | nowhere unstarted bad =>
    refine .inl ⟨rfl, fun _ => ⟨?_, Server.unstarted_of_address unstarted⟩⟩
    rintro address ⟨wanted, named, _⟩
    cases bad.symm.trans named
  | unbound unstarted named refused =>
    refine .inl ⟨rfl, fun _ => ⟨?_, Server.unstarted_of_address unstarted⟩⟩
    rintro address ⟨wanted, same, bound⟩
    cases named.symm.trans same
    cases refused.symm.trans bound
  | @stranded address _ _ unstarted binds strands =>
    refine .inr ⟨unstarted, address, binds, strands, fun steps => ?_⟩
    exact Server.started_at_address (run_address (Server.stranded_address strands) steps)

theorem unbound_start_retried :
    let taken : Server.Machine MemorySink :=
      { bind := fun _ => .error .addressUnavailable, first := .ok .unlimited }
    let free : Server.Machine MemorySink := { bind := .ok, first := .ok .unlimited }
    ∃ made : Server MemorySink, Server.make { waitForClient := true } ["gc"] = .ok made ∧
      (made.start taken).1 = .error (.transport .addressUnavailable) ∧
      (made.start taken).2.Unstarted ∧
      ∃ address, ((made.start taken).2.start free).1 = .ok address := by
  intro taken free
  have starts : (Server.make (σ := MemorySink) { waitForClient := true } ["gc"]).toOption.any (fun made =>
      decide (Wire.failure? (made.start taken).1 = some (.transport .addressUnavailable)) &&
        (made.start free).1.toOption.isSome) = true := by
    simp only [taken, free]
    decide +kernel
  obtain ⟨made, created, passes⟩ := Wire.except_any_ok starts
  obtain ⟨fails, works⟩ := Bool.and_eq_true_iff.mp passes
  have failed := Wire.except_error_of_failure (of_decide_eq_true fails)
  obtain ⟨address, started⟩ := Option.isSome_iff_exists.mp works
  obtain ⟨same, forgotten⟩ | ⟨_, _, ⟨wanted, _, bound⟩, _⟩ :=
    failed_start_forgotten_unless_bound made (made.start taken).2 taken _ (Prod.ext failed rfl)
  · refine ⟨made, created, failed, (forgotten (make_blank created).1).2, address, ?_⟩
    rw [same]
    exact Wire.except_ok_of_option started
  · cases bound

-- The first client comes and cannot be greeted, since the description of the server is too long for the
-- wire. The server keeps the address, takes no space and does not start again.
theorem ungreeted_client_keeps_address :
    let settings : Settings := {
      port := 0, waitForClient := true, generalInfo := String.ofList (List.replicate 65536 'a') }
    let machine : Server.Machine MemorySink := { bind := .ok, first := .ok .unlimited }
    ∃ made next : Server MemorySink, Server.make settings ["gc"] = .ok made ∧
      made.start machine = (.error (.stringTooLong 65536), next) ∧
      (∃ address, next.localAddress = .ok address) ∧
      (∀ space, next.addSpace space = .error .alreadyStarted) ∧
      next.start machine = (.error .alreadyStarted, next) := by
  intro settings machine
  have makes : (Server.make (σ := MemorySink) settings ["gc"]).toOption.any (fun _ =>
      settings.socketAddress.toOption.isSome) = true := by
    simp only [settings]
    decide +kernel
  have size : settings.generalInfo.utf8ByteSize = 65536 := replicated_size 65536
  obtain ⟨made, created, passes⟩ := Wire.except_any_ok makes
  obtain ⟨wanted, is⟩ := Option.isSome_iff_exists.mp passes
  have named : settings.socketAddress = .ok wanted := Wire.except_ok_of_option is
  obtain ⟨unstarted, blank⟩ := make_blank created
  have fresh := (Server.make_fresh created).1
  have refused : Wire.encode (.hello made.info) = .error (.stringTooLong 65536) := by
    obtain ⟨name, named⟩ := Wire.writes_fitting (Wire.text_writes settings.serverName)
    obtain ⟨version, versioned⟩ := Wire.writes_fitting (Wire.text_writes (Build.version {}))
    have long : Wire.writeText settings.generalInfo = .error (.stringTooLong 65536) := by
      rw [Wire.writeText, size]
      rfl
    simp only [blank, Wire.encode, Wire.writeFields, Wire.writeServer, named, versioned, long]
    rfl
  obtain ⟨recorder, ungreeted⟩ := greet_refused refused .unlimited
  have failed : made.start machine = (.error (.stringTooLong 65536), { made with address := some wanted }) :=
    Server.stranded_start unstarted ⟨wanted, fresh.settings ▸ named, rfl⟩
      (.ungreeted (by rw [fresh.settings]) rfl ungreeted)
  have started : Server.StartedAt { made with address := some wanted } wanted :=
    Server.started_at_address rfl
  exact ⟨made, _, created, failed, ⟨wanted, started.named⟩, started.closed, started.refuses machine⟩

end HeapScope
