import HeapScope.Proofs.Server.Driving
import HeapScope.Proofs.Server.Keeping

/- What a failed call leaves at the writer. A report that was begun is thrown away before the failure is
   answered, so that nothing is open at the writer and the next report begins with an empty frame
   (`Cleared`). The check that the event of a call is registered comes before that: a call that it refuses
   changes nothing, and a report that is open stays open. -/
namespace HeapScope

variable {σ : Type}

namespace Recorder

variable [Sink σ] {recorder next : Recorder σ}

theorem clean_ends (clean : recorder.Clean) (space : SpaceId) :
    recorder.perform (.endSpace space) = (.error (.noOpenSpace space), recorder) := by
  simp [perform, endSpace, writeFor, checkOpen, clean.current]

theorem clean_begins (clean : recorder.Clean) (event : EventId) (space : SpaceId) (tileCount : UInt32) :
    ∃ bytes, Wire.encode (.spaceBegin space event tileCount) = .ok bytes ∧
      recorder.perform (.beginSpace event space tileCount) = (.ok (), { recorder with
        frame := ⟨bytes, none⟩, current := some space, namesInFrame := false }) := by
  obtain ⟨bytes, encoded⟩ : ∃ bytes, Wire.encode (.spaceBegin space event tileCount) = .ok bytes := ⟨_, rfl⟩
  have appended : recorder.frame.append (.spaceBegin space event tileCount) = .ok ⟨bytes, none⟩ := by
    rw [clean.frame]
    exact FrameBuilder.append_closed [] bytes _ encoded
  refine ⟨bytes, encoded, ?_⟩
  simp [perform, beginSpace, clean.current, appended]

theorem flushed_clean (recorder : Recorder σ) {frame : FrameBuilder} {counts : Table EventId Nat}
    (idle : recorder.current = none) (unnamed : recorder.namesInFrame = false)
    (flushed : flushFrame { recorder with frame, counts } = (.ok (), next)) : next.Clean := by
  obtain ⟨sink, rfl⟩ := flush_ok flushed
  exact ⟨idle, rfl, unnamed⟩

theorem write_open (tidy : recorder.Tidy) {call : ReportCall} {write : FrameBuilder.Call}
    (named : call.write? = some write) (accepted : recorder.perform call = (.ok (), next)) :
    recorder.current ≠ none ∧ next.current ≠ none := by
  rcases write_cases recorder named with ⟨error, refused⟩ | ⟨frame, names, done, _, opened⟩
  · rw [refused] at accepted
    cases accepted
  · rw [done] at accepted
    cases accepted
    rcases opened with ⟨space, is, _⟩ | ⟨blocked, _⟩
    · simp [is]
    · have opened (idle : recorder.current = none) : False :=
        blocked (by simp [(tidy idle).frame, FrameBuilder.empty])
      exact ⟨opened, opened⟩

theorem end_space_clean {space : SpaceId} (accepted : recorder.endSpace space = (.ok (), next)) :
    next.Clean := by
  rcases end_space_cases recorder space with ⟨_, _, _, refused⟩ | ⟨frame, _, _, named, done⟩
  · simp [refused] at accepted
  · rw [done] at accepted
    cases flushed : flushFrame { recorder with frame, current := none, namesInFrame := false } with
    | mk outcome after =>
      rw [flushed] at accepted
      cases accepted
      obtain ⟨sink, rfl⟩ := flush_ok flushed
      exact ⟨rfl, rfl, rfl⟩

theorem safepoint_clean (tidy : recorder.Tidy) {event : EventId}
    (accepted : recorder.safepoint event = (.ok (), next)) : next.Clean := by
  have closed (idle : recorder.current = none) : recorder.frame.openControl = none := by
    simp [(tidy idle).frame, FrameBuilder.empty]
  rcases safepoint_cases recorder event closed with ⟨_, _, refused⟩ | ⟨idle, frame, counts, _, done⟩
  · simp [refused] at accepted
  · exact flushed_clean recorder idle (tidy idle).names (done.symm.trans accepted)

theorem perform_tidy (tidy : recorder.Tidy) {call : ReportCall}
    (accepted : recorder.perform call = (.ok (), next)) :
    next.Tidy ∧ (recorder.current = none → next.current ≠ none →
      ∃ event space tileCount, call = .beginSpace event space tileCount) := by
  have settled (left : next.Clean ∨ recorder.current ≠ none ∧ next.current ≠ none) :
      next.Tidy ∧ (recorder.current = none → next.current ≠ none →
        ∃ event space tileCount, call = .beginSpace event space tileCount) := by
    rcases left with clean | ⟨before, after⟩
    · exact ⟨fun _ => clean, fun _ opened => absurd clean.current opened⟩
    · exact ⟨fun idle => absurd idle after, fun idle => absurd idle before⟩
  cases call with
  | beginSpace event space tileCount =>
    refine ⟨?_, fun _ _ => ⟨event, space, tileCount, rfl⟩⟩
    rcases begin_space_cases recorder event space tileCount with ⟨error, refused⟩ | ⟨_, _, _, done⟩
    · simp [perform, refused] at accepted
    · rw [perform, done] at accepted
      cases accepted
      exact fun idle => by simp at idle
  | endSpace space => exact settled (.inl (end_space_clean accepted))
  | safepoint event => exact settled (.inl (safepoint_clean tidy accepted))
  | startTimer now =>
    cases accepted
    exact ⟨fun idle => ⟨idle, (tidy idle).frame, (tidy idle).names⟩, fun idle opened => absurd idle opened⟩
  | stopTimer now =>
    have same : next.current = recorder.current ∧ next.frame = recorder.frame ∧
        next.namesInFrame = recorder.namesInFrame := by
      cases accepted
      cases running : recorder.timer <;> simp [stopTimer, running, addCompensation]
    refine ⟨fun idle => ?_, fun idle opened => absurd (same.1.trans idle) opened⟩
    have before := tidy (same.1.symm.trans idle)
    exact ⟨idle, same.2.1.trans before.frame, same.2.2.trans before.names⟩
  | tileNames | streamData | control | putControl | summary | spaceInfo =>
    exact settled (.inr (write_open tidy rfl accepted))

end Recorder

open Custody

def tidying (writing : Recorder σ → Prop) : Custody σ where
  sound _ := True
  changes _ := True
  fresh := Recorder.Clean
  pending client := client.recorder.Clean
  writing client := writing client.recorder
  gone _ := True

def ReportCall.beginsReport (events : Nat) : ReportCall → Bool
  | .beginSpace event _ _ => event.index < events
  | _ => false

-- The event for which a call is refused; the check of it comes before everything else.
def World.refused? (world : World σ) : Step σ → Option EventId
  | .call (.beginSpace event _ _) => if world.server.isRegistered event then none else some event
  | .call (.safepoint event) => if world.server.isRegistered event then none else some event
  | _ => none

section Moves

variable [Sink σ] {settings : Settings} {info : ServerInfo} {world : World σ}

theorem tidying_keeps {writing : Recorder σ → Prop} {allowed : ReportCall → Prop}
    (clean : ∀ recorder, recorder.Clean → writing recorder)
    (aside : ∀ recorder sink compensation, writing recorder →
      writing { recorder with sink, compensation })
    (accepts : ∀ recorder next call, allowed call → writing recorder →
      recorder.perform call = (.ok (), next) → writing next) (settings : Settings) (info : ServerInfo) :
    (tidying writing).Keeps allowed settings info where
  lawful := {
    greets := by
      intro server sink recorder _ _ _ greeted
      obtain ⟨hello, next, _, flushed, rfl⟩ := greet_ok greeted
      have clean := Recorder.flushed_clean (.ofSink sink) rfl rfl flushed
      exact ⟨clean.current, clean.frame, clean.names⟩
    publishes := fun _ _ clean => clean
    lapses := fun _ _ => trivial
    retires := fun _ _ => trivial
    changesPending := fun _ _ _ clean => ⟨clean.current, clean.frame, clean.names⟩
    changesWriting := fun _ _ _ claimed => aside _ _ _ claimed }
  fair := anyone_fair (fun _ => trivial) fun _ => trivial
  adopts _ waits := clean _ waits
  accepts client recorder call allows claimed accepted := accepts _ _ call allows claimed accepted
  discards _ recorder _ := clean _ recorder.discard_clean
  charges _ _ claimed := aside _ _ _ claimed
  leaves _ _ _ := trivial

theorem tidy_keeps (settings : Settings) (info : ServerInfo) :
    (tidying (σ := σ) Recorder.Tidy).Keeps (fun _ => True) settings info := by
  apply tidying_keeps
  · intro recorder clean _
    exact clean
  · intro recorder sink compensation tidy idle
    exact ⟨idle, (tidy idle).frame, (tidy idle).names⟩
  · intro recorder next call _ tidy accepted
    exact (Recorder.perform_tidy tidy accepted).1

theorem clean_keeps (settings : Settings) (info : ServerInfo) :
    (tidying (σ := σ) Recorder.Clean).Keeps
      (fun call => ∀ event space tileCount, call ≠ .beginSpace event space tileCount) settings info := by
  apply tidying_keeps
  · intro recorder clean
    exact clean
  · intro recorder sink compensation clean
    exact ⟨clean.current, clean.frame, clean.names⟩
  · intro recorder next call allowed clean accepted
    obtain ⟨tidy, opens⟩ := Recorder.perform_tidy (fun _ => clean) accepted
    by_cases idle : next.current = none
    · exact tidy idle
    · obtain ⟨event, space, tileCount, is⟩ := opens clean.current idle
      exact absurd is (allowed event space tileCount)

theorem tell_fails {call : ReportCall} {error : Error} (failed : (world.tell call).1 = .error error) :
    ∃ client, (world.tell call).2.server.writer = some client ∧ client.recorder.Clean := by
  change (world.server.withWriter (·.perform call)).1 = _ at failed
  change ∃ client, (world.server.withWriter (·.perform call)).2.writer = _ ∧ _
  rcases world.server.with_writer_cases (·.perform call) with
    ⟨_, done⟩ | ⟨client, recorder, _, ⟨_, done⟩ | ⟨_, _, _, done⟩ | ⟨_, _, _, done⟩⟩
  · simp [done] at failed
  · simp [done] at failed
  · simp [done] at failed
  · exact ⟨_, by rw [done], recorder.discard_clean⟩

theorem refused_unchanged {event : EventId} {step : Step σ} {error : Error}
    (refused : world.refused? step = some event)
    (failed : (world.step step).1 = some (.error error)) :
    error = .unknownEvent event ∧ (world.step step).2 = world := by
  have opens (opening : Opening) (unknown : ¬world.server.isRegistered opening.event = true)
      (same : opening.event = event) (failed : (world.take opening).1 = some (.error error)) :
      error = .unknownEvent event ∧ (world.take opening).2 = world := by
    rw [World.take_unregistered world opening unknown] at failed ⊢
    cases failed
    exact ⟨congrArg Error.unknownEvent same, rfl⟩
  cases step with
  | call call =>
    by_cases ready : world.progress.isReady = true
    · rw [World.step, if_pos ready] at failed ⊢
      cases call with
      | beginSpace begun space tileCount =>
        simp only [World.refused?, Option.ite_none_left_eq_some, Option.some.injEq] at refused
        exact opens (.report begun space tileCount) refused.1 refused.2 failed
      | safepoint begun =>
        simp only [World.refused?, Option.ite_none_left_eq_some, Option.some.injEq] at refused
        exact opens (.safepoint begun) refused.1 refused.2 failed
      | _ => cases refused
    · simp [World.step, ready] at failed
  | _ => cases refused

theorem step_fails {step : Step σ} {error : Error} (failed : (world.step step).1 = some (.error error)) :
    (world.step step).2.progress = .ready ∧ (world.refused? step = none →
      ∃ client, (world.step step).2.server.writer = some client ∧ client.recorder.Clean) := by
  cases step with
  | call call =>
    by_cases ready : world.progress.isReady = true
    · rw [World.step, if_pos ready] at failed ⊢
      have made := world.call_called call
      generalize world.call call = result at made failed ⊢
      cases made with
      | refused opening unknown =>
        refine ⟨Progress.ready_of_is_ready ready, fun accepted => ?_⟩
        cases opening <;> simp [World.refused?, Opening.call] at accepted <;> exact absurd accepted unknown
      | taken opening registered => cases failed
      | started now => cases failed
      | stopped now => cases failed
      | told call handsOn => exact ⟨rfl, fun _ => tell_fails (Option.some.inj failed)⟩
    · simp [World.step, ready] at failed
  | proceed =>
    rw [World.step] at failed ⊢
    have move := world.proceed_proceeds
    generalize world.proceed = result at move failed ⊢
    cases move with
    | rests => cases failed
    | adopts taken opening is => cases failed
    | begins event space tileCount is => exact ⟨rfl, fun _ => tell_fails (Option.some.inj failed)⟩
    | hears event is => cases failed
    | passes event is => cases failed
    | fails event is error next told =>
      have clean := tell_fails (congrArg Prod.fst told)
      have rests : (world.tell (.safepoint event)).2.progress = .ready := rfl
      rw [told] at clean rests
      exact ⟨rests, fun _ => clean⟩
    | tells event is next told => cases failed
    | resumes attachment is lets => cases failed
  | start machine =>
    by_cases ready : world.progress.isReady = true <;> simp [World.step, ready] at failed
  | closing move => cases failed
  | happens happening => cases failed

theorem happen_writer (world : World σ) (happening : Happening σ) :
    (world.happen happening).server.writer.isSome = world.server.writer.isSome := by
  cases happening with
  | arrive arrival =>
    by_cases listens : world.server.isListening = true <;> simp [World.happen, Server.arrive, listens]
  | accept reader =>
    have moves := world.server.acceptor_moves reader
    rw [World.happen]
    generalize world.server.acceptorMove reader = next at moves ⊢
    cases moves with
    | welcomes => exact congrArg Option.isSome (world.server.welcome_aside _ reader).1
    | _ => rfl
  | receive generation bytes => rfl
  | endData generation => rfl
  | read generation =>
    obtain ⟨attachment, readers, same⟩ := world.server.reader_move_eq generation
    rw [World.happen, same]
  | change generation change => simp [World.happen]

end Moves

structure Recorder.Begun (event : EventId) (space : SpaceId) (tileCount : UInt32) (recorder : Recorder σ) :
    Prop where
  current : recorder.current = some space
  frame : ∃ bytes, Wire.encode (.spaceBegin space event tileCount) = .ok bytes ∧
    recorder.frame = ⟨bytes, none⟩
  names : recorder.namesInFrame = false

abbrev Idle (settings : Settings) (info : ServerInfo) (world : World σ) : Prop :=
  (tidying Recorder.Clean).Holds settings info world.server world.progress.taken

namespace CrowdedServer

variable [Sink σ] {settings : Settings} {info : ServerInfo} {server : CrowdedServer σ} {event : EventId}
  {space : SpaceId} {tileCount : UInt32}

def Begins (event : EventId) (space : SpaceId) (tileCount : UInt32)
    (begun : Except Error Unit × CrowdedServer σ) : Prop :=
  begun.1 = .ok () ∧ ∀ client, begun.2.world.server.writer = some client →
    client.recorder.Begun event space tileCount

theorem tell_begins {world : World σ}
    (clean : (tidying Recorder.Clean).Holds settings info world.server none) (event : EventId)
    (space : SpaceId) (tileCount : UInt32) (crowd : List (List (Happening σ))) :
    let told := world.tell (.beginSpace event space tileCount)
    Begins event space tileCount (told.1, ⟨told.2, crowd⟩) := by
  cases writes : world.server.writer with
  | none => simp [Begins, World.tell, Server.withWriter, writes]
  | some client =>
    obtain ⟨bytes, encoded, begun⟩ := Recorder.clean_begins (clean.writer client writes) event space tileCount
    simp only [Begins, World.tell, Server.withWriter, writes, begun]
    refine ⟨trivial, fun other is => ?_⟩
    cases is
    exact ⟨rfl, ⟨bytes, encoded, rfl⟩, rfl⟩

theorem follow_opening_begins (is : server.world.progress = .opening event space tileCount)
    (idle : Idle settings info server.world) (moves : Nat) :
    Begins event space tileCount (server.follow (moves + 1)) := by
  obtain ⟨change, progress⟩ := crowd_progress server.world (server.crowd.headD [])
  have clean := crowd_holds (clean_keeps settings info) (server.crowd.headD []) idle
  rw [is] at progress
  rw [progress] at clean
  have opening : ((server.crowd.headD []).foldl World.happen server.world).progress =
      .opening event space tileCount := progress
  simp only [follow, move, World.step, World.proceed, opening]
  exact tell_begins clean event space tileCount server.crowd.tail

theorem follow_adopting_begins {taken : Option (Client σ)}
    (is : server.world.progress = .adopting taken (.report event space tileCount))
    (idle : Idle settings info server.world) (moves : Nat) :
    Begins event space tileCount (server.follow (moves + 2)) := by
  obtain ⟨change, progress⟩ := crowd_progress server.world (server.crowd.headD [])
  have clean := crowd_holds (clean_keeps settings info) (server.crowd.headD []) idle
  rw [is] at progress
  have adopting : ((server.crowd.headD []).foldl World.happen server.world).progress =
      .adopting (taken.map change) (.report event space tileCount) := progress
  rw [adopting] at clean
  have adopted := adopt_holds (clean_keeps settings info).lawful clean fun _ waits => waits
  rw [follow]
  simp only [move, World.step, World.proceed, adopting]
  exact follow_opening_begins rfl adopted moves

theorem idle_begins (ready : server.world.progress = .ready) (idle : Idle settings info server.world)
    (registered : event.index < info.events.length) (space : SpaceId) (tileCount : UInt32) :
    Begins event space tileCount (server.perform (.beginSpace event space tileCount)) := by
  obtain ⟨world, crowded, rests, moved⟩ := move_call ready (.beginSpace event space tileCount)
  have clean := crowd_holds (clean_keeps settings info) (server.crowd.headD []) idle
  rw [← crowded, rests] at clean
  have known : world.server.isRegistered event = true := by
    simpa [Server.isRegistered, clean.info] using registered
  have taken := World.take_registered world (.report event space tileCount) known
  simp only [perform, moved, World.call, taken]
  exact follow_adopting_begins rfl (take_holds clean) 2

theorem crowd_writer (world : World σ) (happenings : List (Happening σ)) :
    (happenings.foldl World.happen world).server.writer.isSome = world.server.writer.isSome := by
  induction happenings generalizing world with
  | nil => rfl
  | cons happening happenings ih => rw [List.foldl_cons, ih, happen_writer]

theorem idle_ends (ready : server.world.progress = .ready) (idle : Idle settings info server.world)
    (writes : server.world.server.writer.isSome = true) (space : SpaceId) :
    (server.perform (.endSpace space)).1 = .error (.noOpenSpace space) := by
  obtain ⟨world, crowded, _, moved⟩ := move_call ready (.endSpace space)
  have clean := crowd_holds (clean_keeps settings info) (server.crowd.headD []) idle
  have there := crowd_writer server.world (server.crowd.headD [])
  rw [← crowded] at clean there
  obtain ⟨client, is⟩ := Option.isSome_iff_exists.mp (there.trans writes)
  have refused := Recorder.clean_ends (clean.writer client is) space
  simp only [perform, moved, World.call, World.tell, Server.withWriter, is, refused]
  rfl

end CrowdedServer

structure World.Cleared [Sink σ] (events : Nat) (world : World σ) : Prop where
  ends : ∀ (crowd : List (List (Happening σ))) (space : SpaceId),
    (CrowdedServer.perform ⟨world, crowd⟩ (.endSpace space)).1 = .error (.noOpenSpace space)
  begins : ∀ steps : List (Step σ), (∀ call ∈ world.calls steps, call.beginsReport events = false) →
    (world.run steps).progress = .ready →
    ∀ (crowd : List (List (Happening σ))) (event : EventId) (space : SpaceId) (tileCount : UInt32),
      event.index < events → CrowdedServer.Begins event space tileCount
        (CrowdedServer.perform ⟨world.run steps, crowd⟩ (.beginSpace event space tileCount))

theorem idle_cleared [Sink σ] {settings : Settings} {info : ServerInfo} {world : World σ}
    (ready : world.progress = .ready) (idle : Idle settings info world)
    (writes : world.server.writer.isSome = true) : world.Cleared info.events.length := by
  refine ⟨fun crowd => CrowdedServer.idle_ends ready idle writes, ?_⟩
  intro steps quiet after crowd event space tileCount registered
  have unmade (call : ReportCall) (is : world.progress.call? = some call) : False := by
    simp [ready, Progress.call?] at is
  have kept := run_kept (clean_keeps settings info) ⟨idle, fun call is => (unmade call is).elim⟩ steps ?_
  · exact CrowdedServer.idle_begins after kept.holds registered space tileCount
  · rintro call member known event space tileCount rfl
    have begins := quiet _ member
    simp only [ReportCall.beginsReport, decide_eq_false_iff_not] at begins
    exact begins (known (.report event space tileCount) rfl)

theorem failed_calls_discard [Sink σ] (settings : Settings) (events : List String)
    (spaces : List SpaceDescriptor) (made server : Server σ)
    {build : Build} (created : Server.make settings events build = .ok made)
    (registered : Channel.addSpaces made spaces = .ok server) (steps : List (Step σ)) (step : Step σ)
    (error : Error)
    (failed : (((World.ofServer server).run steps).step step).1 = some (.error error)) :
    let world := (World.ofServer server).run steps
    let next := (world.step step).2
    (∀ event, world.refused? step = some event → error = .unknownEvent event ∧ next = world) ∧
    (world.refused? step = none → next.server.writer.isSome = true) ∧
    ∀ client, next.server.writer = some client →
      (world.refused? step = none ∨ client.recorder.current = none) →
      client.recorder.Clean ∧ next.Cleared events.length := by
  intro world next
  have fresh := Server.add_spaces_fresh (Server.make_fresh created).1 registered
  have begun : (tidying Recorder.Tidy).Kept (fun _ => True) settings server.info (World.ofServer server) :=
    ⟨Custody.fresh_holds _ fresh, nofun⟩
  have before := run_kept (tidy_keeps settings server.info) begun steps fun _ _ _ => trivial
  have tidy : (tidying Recorder.Tidy).Holds settings server.info next.server next.progress.taken :=
    (step_kept (tidy_keeps settings server.info) before step fun _ _ _ => trivial).holds
  obtain ⟨ready, fails⟩ := step_fails failed
  refine ⟨fun event refused => refused_unchanged refused failed, fun accepted => ?_, ?_⟩
  · obtain ⟨client, is, _⟩ := fails accepted
    exact Option.isSome_of_eq_some is
  intro client is discards
  have clean : client.recorder.Clean := by
    rcases discards with accepted | idle
    · obtain ⟨other, same, clean⟩ := fails accepted
      cases is.symm.trans same
      exact clean
    · exact tidy.writer client is idle
  -- What is claimed of the writer is more now that it is known to be clean.
  have idle : Idle settings server.info next := by
    refine { tidy with writer := ?_ }
    intro other same
    cases is.symm.trans same
    exact clean
  rw [← fresh.events]
  exact ⟨clean, idle_cleared ready idle (Option.isSome_of_eq_some is)⟩

theorem unfilled_block_discarded :
    let steps : List (Step MemorySink) := .start { bind := .ok, first := .error .brokenPipe } ::
      .happens (.arrive (.client .unlimited)) :: List.replicate 5 (.happens .accept) ++
      [.call (.beginSpace ⟨0⟩ ⟨3⟩ 4), .proceed, .proceed, .call (.control ⟨3⟩ 2), .call (.putControl .used)]
    ∃ made : Server MemorySink, Server.make {} ["gc"] = .ok made ∧
      let world := (World.ofServer made).run steps
      let failed := world.step (.call (.endSpace ⟨3⟩))
      failed.1 = some (.error (.incompleteControl ⟨3⟩ 1)) ∧
      ∃ client, failed.2.server.writer = some client ∧ client.recorder.Clean ∧ failed.2.Cleared 1 := by
  intro steps
  have answered : (Server.make (σ := MemorySink) {} ["gc"]).toOption.any (fun made =>
      decide ((((World.ofServer made).run steps).step (.call (.endSpace ⟨3⟩))).1.bind Wire.failure? =
        some (.incompleteControl ⟨3⟩ 1))) = true := by
    simp only [steps]
    decide +kernel
  obtain ⟨made, created, passes⟩ := Wire.except_any_ok answered
  obtain ⟨answer, is, fails⟩ := Option.bind_eq_some_iff.mp (of_decide_eq_true passes)
  have failed := is.trans (congrArg some (Wire.except_error_of_failure fails))
  obtain ⟨_, writes, discards⟩ := failed_calls_discard {} ["gc"] [] made made created rfl steps
    (.call (.endSpace ⟨3⟩)) _ failed
  obtain ⟨client, is⟩ := Option.isSome_iff_exists.mp (writes rfl)
  exact ⟨made, created, failed, client, is, discards client is (.inl rfl)⟩

-- A call that is refused for its event leaves the report open, which can be ended or stands in the way
-- of the next.
theorem unknown_event_keeps_report :
    let steps : List (Step MemorySink) := .start { bind := .ok, first := .error .brokenPipe } ::
      .happens (.arrive (.client .unlimited)) :: List.replicate 5 (.happens .accept) ++
      [.call (.beginSpace ⟨0⟩ ⟨3⟩ 4), .proceed, .proceed, .call (.beginSpace ⟨9⟩ ⟨3⟩ 4)]
    ∃ made : Server MemorySink, Server.make {} ["gc"] = .ok made ∧
      let world := World.ofServer made
      (world.answers (steps ++ [.call (.endSpace ⟨3⟩)])).map Wire.failure? =
        [none, some (.unknownEvent ⟨9⟩), none] ∧
      (world.answers (steps ++ [.call (.beginSpace ⟨0⟩ ⟨3⟩ 4), .proceed, .proceed])).map Wire.failure? =
        [none, some (.unknownEvent ⟨9⟩), some (.spaceAlreadyOpen ⟨3⟩ ⟨3⟩)] := by
  intro steps
  have answered : (Server.make (σ := MemorySink) {} ["gc"]).toOption.any (fun made =>
      let world := World.ofServer made
      decide ((world.answers (steps ++ [.call (.endSpace ⟨3⟩)])).map Wire.failure? =
          [none, some (.unknownEvent ⟨9⟩), none] ∧
        (world.answers (steps ++ [.call (.beginSpace ⟨0⟩ ⟨3⟩ 4), .proceed, .proceed])).map Wire.failure? =
          [none, some (.unknownEvent ⟨9⟩), some (.spaceAlreadyOpen ⟨3⟩ ⟨3⟩)])) = true := by
    simp only [steps]
    decide +kernel
  obtain ⟨made, created, passes⟩ := Wire.except_any_ok answered
  exact ⟨made, created, of_decide_eq_true passes⟩

end HeapScope
