import HeapScope.Proofs.Server.Presence

namespace HeapScope

variable {σ : Type}

theorem Attachment.pass_none_iff (attachment : Attachment) :
    attachment.pass? = none ↔
      attachment.connected = true ∧ attachment.paused = true ∧ attachment.steps = 0 := by
  by_cases free : (!attachment.connected || !attachment.paused) = true
  · rw [pass?, if_pos free]
    simp only [Bool.or_eq_true, Bool.not_eq_true'] at free
    rcases free with left | runs
    · simp [left]
    · simp [runs]
  · have held : attachment.connected = true ∧ attachment.paused = true := by simpa using free
    rw [pass?, if_neg free]
    by_cases granted : 0 < attachment.steps
    · simp [granted, Nat.ne_of_gt granted]
    · simp [held, Nat.eq_zero_of_not_pos granted]

def Progress.tells? : Progress σ → Option EventId
  | .telling event => some event
  | _ => none

theorem Progress.telling_of_tells {progress : Progress σ} {event : EventId}
    (tells : progress.tells? = some event) : progress = .telling event := by
  cases progress with
  | telling =>
    cases tells
    rfl
  | _ => cases tells

namespace World

def Left (world : World σ) (number : Nat) : Prop :=
  number ≤ world.server.attachment.generation ∧
    (world.server.attachment.connected = true → number < world.server.attachment.generation)

variable [Sink σ] {world : World σ} {number : Nat}

theorem step_left (left : world.Left number) (step : Step σ) : (world.step step).2.Left number := by
  obtain ⟨counted, later⟩ := left
  rcases turns_attached (world.step_turns step) with
    ⟨_, _, attached, _⟩ | ⟨_, _, withdrawn⟩ | ⟨same, connected⟩
  · rw [Left, attached]
    exact ⟨Nat.le_succ_of_le counted, fun _ => Nat.lt_succ_of_le counted⟩
  · rw [Left, withdrawn, Attachment.attach_detach]
    exact ⟨Nat.le_succ_of_le counted, nofun⟩
  · rw [Left, same]
    exact ⟨counted, fun still => later (connected still)⟩

theorem run_left (left : world.Left number) (steps : List (Step σ)) : (world.run steps).Left number := by
  induction steps generalizing world with
  | nil => exact left
  | cons step steps ih => exact ih (step_left left step)

-- The collector is one thread, so a step that does not let it go leaves it where it waits.
theorem step_waits (waits : world.progress = .waiting) {step : Step σ}
    (unanswered : (world.step step).1 = none) :
    (world.step step).2.progress = .waiting ∧ (world.step step).2.log = world.log := by
  have busy : ¬world.progress.isReady = true := by
    rw [waits]
    exact Bool.false_ne_true
  cases step with
  | call call =>
    rw [step, if_neg busy]
    exact ⟨waits, rfl⟩
  | start machine =>
    rw [step, if_neg busy]
    exact ⟨waits, rfl⟩
  | closing move =>
    rw [step, if_neg busy]
    exact ⟨waits, rfl⟩
  | proceed =>
    have move := world.proceed_proceeds
    change world.proceed.1 = none at unanswered
    change world.proceed.2.progress = .waiting ∧ world.proceed.2.log = world.log
    generalize world.proceed = result at move unanswered ⊢
    cases move with
    | rests => exact ⟨waits, rfl⟩
    | resumes => cases unanswered
    | adopts taken opening is => cases waits.symm.trans is
    | begins event space tileCount is => cases waits.symm.trans is
    | hears event is => cases waits.symm.trans is
    | passes event is => cases waits.symm.trans is
    | fails event is => cases waits.symm.trans is
    | tells event is => cases waits.symm.trans is
  | happens happening =>
    obtain ⟨change, progress⟩ := world.happen_progress happening
    rw [waits] at progress
    exact ⟨progress, world.happen_log happening⟩

theorem run_waits (waits : world.progress = .waiting) {steps : List (Step σ)}
    (unanswered : world.answers steps = []) :
    (world.run steps).progress = .waiting ∧ (world.run steps).log = world.log := by
  induction steps generalizing world with
  | nil => exact ⟨waits, rfl⟩
  | cons step steps ih =>
    obtain ⟨first, others⟩ := List.append_eq_nil_iff.mp unanswered
    obtain ⟨stays, same⟩ := step_waits waits (Option.toList_eq_nil_iff.mp first)
    obtain ⟨waiting, log⟩ := ih stays others
    exact ⟨waiting, log.trans same⟩

theorem recheck_answers (waits : world.progress = .waiting) :
    (world.step .proceed).1 =
      if world.server.attachment.connected = true ∧ world.server.attachment.paused = true ∧
        world.server.attachment.steps = 0 then none else some (.ok ()) := by
  rw [step, proceed, waits]
  dsimp only
  by_cases held : world.server.attachment.pass? = none
  · rw [if_pos (world.server.attachment.pass_none_iff.mp held), Server.recheck, held]
  · rw [if_neg fun free => held (world.server.attachment.pass_none_iff.mpr free)]
    obtain ⟨passed, lets⟩ := Option.ne_none_iff_exists'.mp held
    rw [Server.recheck, lets]

theorem told_waits {event : EventId} {client : Client σ} (asks : world.progress = .telling event)
    (writes : world.server.writer = some client) (unanswered : (world.step .proceed).1 = none) :
    (world.step .proceed).2.progress = .waiting ∧ ∃ outcome, (world.step .proceed).2.log =
      world.log ++ [⟨client.generation, .report (.safepoint event), outcome⟩] := by
  have log : (world.tell (.safepoint event)).2.log = world.log ++
      [⟨client.generation, .report (.safepoint event), (client.recorder.perform (.safepoint event)).1⟩] := by
    simp only [tell, writes, Option.map_some, Option.toList_some]
  cases told : world.tell (.safepoint event) with
  | mk answer next =>
    rw [told] at log
    cases answer with
    | error error =>
      have ends : world.step .proceed = (some (.error error), next) := by
        simp only [step, proceed, asks, told]
      rw [ends] at unanswered
      cases unanswered
    | ok done =>
      have goesOn : world.step .proceed = (none, { next with progress := .waiting }) := by
        simp only [step, proceed, asks, told]
      rw [goesOn]
      exact ⟨rfl, _, log⟩

end World

variable [Sink σ]

theorem left_client_releases (settings : Settings) (events : List String)
    (spaces : List SpaceDescriptor) (made server : Server σ)
    {build : Build} (created : Server.make settings events build = .ok made)
    (registered : Channel.addSpaces made spaces = .ok server) (steps : List (Step σ))
    (event : EventId) (client : Client σ) :
    let world := (World.ofServer server).run steps
    world.progress = .telling event → world.server.writer = some client →
    (world.step .proceed).1 = none →
    let told := (world.step .proceed).2
    ∀ before after : List (Step σ), told.answers (before ++ after) = [] →
      let left := (told.run before).server.attachment
      ¬(left.connected = true ∧ left.generation = client.generation) →
      let later := told.run (before ++ after)
      let attachment := later.server.attachment
      later.progress = .waiting ∧
      (∃ outcome, later.log = world.log ++ [⟨client.generation, .report (.safepoint event), outcome⟩]) ∧
      (attachment.connected = true → client.generation < attachment.generation) ∧
      (later.step .proceed).1 =
        if attachment.connected = true ∧ attachment.paused = true ∧ attachment.steps = 0 then none
        else some (.ok ()) := by
  intro world asks writes unanswered told before after waited left gone later attachment
  have fresh := Server.add_spaces_fresh (Server.make_fresh created).1 registered
  have numbered : Numbered world := run_numbered (fresh_numbered fresh) steps
  obtain ⟨waits, outcome, log⟩ := World.told_waits asks writes unanswered
  obtain ⟨waiting, same⟩ := World.run_waits waits waited
  have counted : client.generation ≤ left.generation := by
    have among : client ∈ world.clients := by
      simp [World.clients, Server.clients, writes]
    have grows := run_grows world (.proceed :: before)
    exact Nat.le_trans (numbered.counted _ (List.mem_map_of_mem among)) grows
  have hasLeft : (told.run before).Left client.generation :=
    ⟨counted, fun connected => Nat.lt_of_le_of_ne counted fun own => gone ⟨connected, own.symm⟩⟩
  have still : later.Left client.generation := by
    have run := World.run_left hasLeft after
    rw [← World.run_append] at run
    exact run
  exact ⟨waiting, ⟨outcome, same.trans log⟩, still.2, World.recheck_answers waiting⟩

def attaching : List (Step MemorySink) :=
  .happens (.arrive (.client .unlimited)) :: List.replicate 5 (.happens .accept)

def pausing (generation : Nat) : List (Step MemorySink) :=
  [.happens (.receive generation [0, 0, 0, 1, 0x82]), .happens (.read generation),
    .happens (.read generation)]

def pausedSafepoint : List (Step MemorySink) :=
  .start { bind := .ok, first := .error .brokenPipe } :: attaching ++ pausing 1 ++
    [.call (.safepoint ⟨0⟩), .proceed, .proceed]

def departing (generation : Nat) : List (Step MemorySink) :=
  [.happens (.endData generation), .happens (.read generation)]

theorem departure_releases :
    ∃ made : Server MemorySink, Server.make {} ["gc"] = .ok made ∧
      let world := (World.ofServer made).run pausedSafepoint
      world.progress = .telling ⟨0⟩ ∧ world.server.writer.map (·.generation) = some 1 ∧
      let told := (world.step .proceed).2
      (told.step .proceed).1 = none ∧
      let later := told.run (departing 1 ++ attaching)
      later.progress = .waiting ∧ later.server.attachment = ⟨true, 2, false, 0, []⟩ ∧
      (later.step .proceed).1 = some (.ok ()) := by
  have waits : (Server.make (σ := MemorySink) {} ["gc"]).toOption.any (fun made =>
      let world := (World.ofServer made).run pausedSafepoint
      let told := (world.step .proceed).2
      decide (world.progress.tells? = some ⟨0⟩ ∧ world.server.writer.map (·.generation) = some 1 ∧
        (world.step .proceed).1.isNone = true ∧ (told.step .proceed).1.isNone = true ∧
        (told.answers (departing 1 ++ attaching)).isEmpty = true ∧
        (told.run (departing 1)).server.attachment = ⟨false, 1, false, 0, []⟩ ∧
        (told.run (departing 1 ++ attaching)).server.attachment = ⟨true, 2, false, 0, []⟩)) = true := by
    decide +kernel
  obtain ⟨made, created, passes⟩ := Wire.except_any_ok waits
  obtain ⟨tells, writes, unanswered, held, waited, gone, attachment⟩ := of_decide_eq_true passes
  have asks := Progress.telling_of_tells tells
  obtain ⟨client, is, first⟩ := Option.map_eq_some_iff.mp writes
  obtain ⟨waiting, _, _, answer⟩ := left_client_releases {} ["gc"] [] made made created rfl pausedSafepoint
    ⟨0⟩ client asks is (Option.isNone_iff_eq_none.mp unanswered) (departing 1) attaching
    (List.isEmpty_iff.mp waited) (by simp [gone])
  refine ⟨made, created, asks, writes, Option.isNone_iff_eq_none.mp held, waiting, attachment, ?_⟩
  rw [answer, attachment]
  rfl

-- The client leaves while the collector waits, another one attaches and pauses it, and the collector
-- waits on for that one, which was told of no safepoint.
theorem successor_holds :
    ∃ made : Server MemorySink, Server.make {} ["gc"] = .ok made ∧
      let world := (World.ofServer made).run pausedSafepoint
      world.progress = .telling ⟨0⟩ ∧ world.server.writer.map (·.generation) = some 1 ∧
      let told := (world.step .proceed).2
      (told.run (departing 1)).server.attachment = ⟨false, 1, false, 0, []⟩ ∧
      let later := told.run (departing 1 ++ attaching ++ pausing 2)
      later.server.attachment = ⟨true, 2, true, 0, []⟩ ∧
      later.log.map (·.generation) = [1] ∧ later.progress = .waiting ∧
      (later.step .proceed).1 = none := by
  have waits : (Server.make (σ := MemorySink) {} ["gc"]).toOption.any (fun made =>
      let world := (World.ofServer made).run pausedSafepoint
      let told := (world.step .proceed).2
      let later := told.run (departing 1 ++ attaching ++ pausing 2)
      decide (world.progress.tells? = some ⟨0⟩ ∧ world.server.writer.map (·.generation) = some 1 ∧
        (world.step .proceed).1.isNone = true ∧
        (told.answers (departing 1 ++ attaching ++ pausing 2)).isEmpty = true ∧
        (told.run (departing 1)).server.attachment = ⟨false, 1, false, 0, []⟩ ∧
        later.server.attachment = ⟨true, 2, true, 0, []⟩ ∧ later.log.map (·.generation) = [1] ∧
        (later.step .proceed).1.isNone = true)) = true := by
    decide +kernel
  obtain ⟨made, created, passes⟩ := Wire.except_any_ok waits
  obtain ⟨tells, writes, unanswered, waited, gone, attachment, log, held⟩ := of_decide_eq_true passes
  have asks := Progress.telling_of_tells tells
  obtain ⟨client, is, _⟩ := Option.map_eq_some_iff.mp writes
  obtain ⟨waits, _⟩ := World.told_waits asks is (Option.isNone_iff_eq_none.mp unanswered)
  obtain ⟨waiting, _⟩ := World.run_waits waits (List.isEmpty_iff.mp waited)
  exact ⟨made, created, asks, writes, gone, attachment, log, waiting, Option.isNone_iff_eq_none.mp held⟩

end HeapScope
