import HeapScope.Proofs.Server.Custody
import HeapScope.Proofs.Server.Turns

/- The steps that a client grants the collector it has paused. A ghost account notes the steps that were
   granted since the client attached or last let the collector run, and the safepoints that were left for
   one of them (`World.account`); it balances with the steps that are left, whatever happens
   (`reckon_balanced`). A client can grant more than can be counted: these are lost. -/
namespace HeapScope

structure StepAccount where
  granted : Nat
  spent : Nat
  lost : Nat
deriving DecidableEq, Repr

namespace StepAccount

def blank : StepAccount := ⟨0, 0, 0⟩

-- A step that comes while the collector runs is granted to nobody.
def hear (account : StepAccount) (attachment : Attachment) : Command → StepAccount
  | .play => blank
  | .step =>
    if attachment.paused then
      { account with
        granted := account.granted + 1
        lost := if attachment.steps < Attachment.mostSteps then account.lost else account.lost + 1 }
    else account
  | _ => account

structure Balanced (account : StepAccount) (attachment : Attachment) : Prop where
  paused : 0 < attachment.steps → attachment.paused = true
  counted : attachment.steps ≤ Attachment.mostSteps
  balance : account.granted = account.spent + attachment.steps + account.lost
  losses : 0 < account.lost → Attachment.mostSteps < account.granted

theorem blank_balanced (generation : Nat) (muted : List EventId) :
    blank.Balanced ⟨true, generation, false, 0, muted⟩ where
  paused := by simp
  counted := by simp
  balance := by simp [blank]
  losses := by simp [blank]

theorem hear_balanced {account : StepAccount} {attachment : Attachment}
    (balanced : account.Balanced attachment) (command : Command) :
    (account.hear attachment command).Balanced (attachment.apply command) := by
  obtain ⟨paused, counted, balance, losses⟩ := balanced
  cases command with
  | play => exact ⟨by simp [Attachment.apply], by simp [Attachment.apply],
      by simp [hear, blank, Attachment.apply], by simp [hear, blank]⟩
  | pause => exact ⟨by simp [Attachment.apply], counted, balance, losses⟩
  | step =>
    by_cases holds : attachment.paused = true
    · by_cases room : attachment.steps < Attachment.mostSteps
      · have granted : min (attachment.steps + 1) Attachment.mostSteps = attachment.steps + 1 := by omega
        simp only [hear, Attachment.apply, holds, room, if_true, granted]
        refine ⟨fun _ => rfl, room, ?_, fun lost => ?_⟩
        · dsimp only
          omega
        · have large := losses lost
          dsimp only
          omega
      · have full : min (attachment.steps + 1) Attachment.mostSteps = attachment.steps := by omega
        simp only [hear, Attachment.apply, holds, room, if_true, if_false, full]
        refine ⟨fun _ => rfl, counted, ?_, fun _ => ?_⟩
        · dsimp only
          omega
        · dsimp only
          omega
    · simp only [hear, Attachment.apply, holds]
      exact ⟨paused, counted, balance, losses⟩
  | enableEvent event enabled => cases enabled <;> exact ⟨paused, counted, balance, losses⟩
  | _ => exact ⟨paused, counted, balance, losses⟩

end StepAccount

def Progress.wasHeard {σ : Type} : Progress σ → Bool
  | .telling _ | .waiting => true
  | _ => false

namespace World

variable {σ : Type} [Sink σ]

-- The account behind a step: it starts anew with each client that attaches.
def reckon (world : World σ) (account : StepAccount) (step : Step σ) : StepAccount :=
  if (world.step step).2.server.attachment.generation ≠ world.server.attachment.generation then .blank
  else
    match world.applied? step with
    | some command => account.hear world.server.attachment command
    | none => if world.spends step then { account with spent := account.spent + 1 } else account

def account (world : World σ) (before : StepAccount) : List (Step σ) → StepAccount
  | [] => before
  | step :: steps => (world.step step).2.account (world.reckon before step) steps

end World

open StepAccount

variable {σ : Type} [Sink σ]

theorem reckon_same {world : World σ} {step : Step σ} (account : StepAccount)
    (same : (world.step step).2.server.attachment.generation = world.server.attachment.generation) :
    world.reckon account step =
      match world.applied? step with
      | some command => account.hear world.server.attachment command
      | none => if world.spends step then { account with spent := account.spent + 1 } else account := by
  simp [World.reckon, same]

theorem reckon_quiet {world : World σ} {step : Step σ} (account : StepAccount)
    (same : (world.step step).2.server.attachment.generation = world.server.attachment.generation)
    (silent : world.applied? step = none) (keeps : world.spends step = false) :
    world.reckon account step = account := by
  simp [World.reckon, same, silent, keeps]

theorem reckon_balanced (world : World σ) (account : StepAccount) (step : Step σ)
    (balanced : world.server.attachment.connected = true → account.Balanced world.server.attachment)
    (stays : (world.step step).2.server.attachment.connected = true) :
    (world.reckon account step).Balanced (world.step step).2.server.attachment := by
  have turns := world.step_turns step
  generalize is : (world.step step).2 = next at turns stays ⊢
  cases turns with
  | rests same silent keeps =>
    rw [reckon_quiet account (by rw [is, same]) silent keeps, same]
    exact balanced (same ▸ stays)
  | attaches recorder opens attached waits =>
    have anew : world.reckon account step = blank := by
      simp [World.reckon, is, attached, Attachment.attach]
    rw [anew, attached]
    exact blank_balanced _ _
  | withdraws opens unread withdrawn => simp [withdrawn, Attachment.attach_detach] at stays
  | leaves generation left silent keeps =>
    by_cases own : world.server.attachment.generation = generation
    · simp [left, Attachment.detach, own] at stays
    · have same : next.server.attachment = world.server.attachment := by
        rw [left, Attachment.detach, if_neg own]
      rw [reckon_quiet account (by rw [is, same]) silent keeps, same]
      exact balanced (same ▸ stays)
  | applies command comes applied =>
    have kept := Attachment.apply_keeps world.server.attachment command
    rw [reckon_same account (by rw [is, applied, kept.2]), comes, applied]
    exact hear_balanced (balanced (by rw [← kept.1, ← applied, stays])) command
  | passes proceeds waits lets =>
    subst proceeds
    have kept : world.reckon account .proceed =
        if world.spends .proceed then { account with spent := account.spent + 1 } else account :=
      reckon_same account (by rw [is, Server.pass_generation lets])
    rw [World.spends_waiting waits] at kept
    rcases Attachment.pass_cases lets with ⟨runs, same⟩ | ⟨connected, holds, granted, same⟩
    · rw [same] at stays ⊢
      rw [kept]
      simpa [runs stays] using balanced stays
    · obtain ⟨paused, counted, balance, losses⟩ := balanced connected
      rw [kept, same]
      simp only [connected, holds, granted, decide_true, Bool.and_self, if_true]
      refine ⟨fun _ => rfl, ?_, ?_, losses⟩
      · dsimp only
        omega
      · dsimp only
        omega
  | closes closed => simp [closed, Attachment.close] at stays

theorem account_balanced (world : World σ) (account : StepAccount) (steps : List (Step σ))
    (balanced : world.server.attachment.connected = true → account.Balanced world.server.attachment)
    (stays : (world.run steps).server.attachment.connected = true) :
    (world.account account steps).Balanced (world.run steps).server.attachment := by
  induction steps generalizing world account with
  | nil => exact balanced stays
  | cons step steps ih => exact ih _ _ (reckon_balanced world account step balanced) stays

theorem proceed_reckoned {world : World σ} (account : StepAccount) {passed : Attachment}
    (waits : world.progress = .waiting) (lets : world.server.attachment.pass? = some passed) :
    (world.step .proceed).2.server.attachment = passed ∧ world.reckon account .proceed =
      if world.spends .proceed then { account with spent := account.spent + 1 } else account := by
  have reached : (world.step .proceed).2.server.attachment = passed := by
    simp [World.step, World.proceed, waits, Server.recheck, lets]
  exact ⟨reached, reckon_same account (by rw [reached, Server.pass_generation lets])⟩

theorem spends_leaves {world : World σ} {step : Step σ} (spends : world.spends step = true) :
    (world.step step).1 = some (.ok ()) := by
  by_cases waits : world.progress = .waiting
  · cases step with
    | proceed =>
      cases look : world.server.attachment.pass? with
      | some passed => simp [World.step, World.proceed, waits, Server.recheck, look]
      | none => simp [World.spends_blocked waits look] at spends
    | _ => cases spends
  · simp [World.spends_elsewhere waits] at spends

structure World.LeavesRunning (world : World σ) (account : StepAccount) : Prop where
  runs : world.server.attachment.paused = false
  attachment : (world.step .proceed).2.server.attachment = world.server.attachment
  account : world.reckon account .proceed = account

structure World.LeavesForStep (world : World σ) (account : StepAccount) : Prop where
  paused : world.server.attachment.paused = true
  granted : 0 < world.server.attachment.steps
  attachment : (world.step .proceed).2.server.attachment =
    { world.server.attachment with steps := world.server.attachment.steps - 1 }
  account : world.reckon account .proceed = { account with spent := account.spent + 1 }

theorem left_safepoint {world : World σ} (account : StepAccount) (heard : world.progress.wasHeard = true)
    (connected : world.server.attachment.connected = true)
    (left : (world.step .proceed).1 = some (.ok ())) :
    world.LeavesRunning account ∨ world.LeavesForStep account := by
  have move := world.proceed_proceeds
  change world.proceed.1 = _ at left
  generalize world.proceed = result at move left
  cases move with
  | rests => cases left
  | adopts taken opening is => cases left
  | begins event space tileCount is => simp [is, Progress.wasHeard] at heard
  | hears event is => cases left
  | passes event is => simp [is, Progress.wasHeard] at heard
  | fails event is error next told => cases left
  | tells event is next told => cases left
  | resumes passed waits lets =>
    obtain ⟨reached, kept⟩ := proceed_reckoned account waits lets
    rw [World.spends_waiting waits] at kept
    rcases Attachment.pass_cases lets with ⟨runs, same⟩ | ⟨_, holds, granted, same⟩
    · left
      have paused := runs connected
      exact ⟨paused, by rw [reached, same], by simpa [paused] using kept⟩
    · right
      exact ⟨holds, granted, by rw [reached, same], by simpa [connected, holds, granted] using kept⟩

theorem running_step_ignored {world : World σ} (account : StepAccount) {step : Step σ}
    (comes : world.applied? step = some .step) (runs : world.server.attachment.paused = false) :
    (world.step step).2.server.attachment = world.server.attachment ∧
      world.reckon account step = account := by
  have same : (world.step step).2.server.attachment = world.server.attachment := by
    have turns := world.step_turns step
    cases turns with
    | rests same silent => simp [comes] at silent
    | attaches recorder opens => cases comes.symm.trans (World.opens_silent opens)
    | withdraws opens => cases comes.symm.trans (World.opens_silent opens)
    | leaves generation left silent => simp [comes] at silent
    | applies command also applied =>
      rw [comes] at also
      cases also
      simp [applied, Attachment.apply, runs]
    | passes proceeds =>
      subst proceeds
      cases comes
    | closes closed silent => simp [comes] at silent
  refine ⟨same, ?_⟩
  rw [reckon_same account (by rw [same]), comes]
  simp [hear, runs]

structure World.Settled (world : World σ) (account : StepAccount) : Prop where
  paused : 0 < world.server.attachment.steps → world.server.attachment.paused = true
  balance : account.granted = account.spent + world.server.attachment.steps + account.lost
  counted : account.granted ≤ Attachment.mostSteps → account.lost = 0
  spent : ∀ step, world.spends step = true → (world.step step).1 = some (.ok ())
  left : world.progress.wasHeard = true → (world.step .proceed).1 = some (.ok ()) →
    world.LeavesRunning account ∨ world.LeavesForStep account
  ignored : ∀ step, world.applied? step = some .step → world.server.attachment.paused = false →
    (world.step step).2.server.attachment = world.server.attachment ∧ world.reckon account step = account

theorem granted_steps_balance (settings : Settings) (events : List String)
    (spaces : List SpaceDescriptor) (made server : Server σ)
    {build : Build} (created : Server.make settings events build = .ok made)
    (registered : Channel.addSpaces made spaces = .ok server) (steps : List (Step σ)) :
    let world := (World.ofServer server).run steps
    world.server.attachment.connected = true →
      world.Settled ((World.ofServer server).account .blank steps) := by
  intro world connected
  have ready := Server.add_spaces_fresh (Server.make_fresh created).1 registered
  have begun : (World.ofServer server).server.attachment.connected = true →
      StepAccount.blank.Balanced (World.ofServer server).server.attachment := by
    intro attached
    change server.attachment.connected = true at attached
    rw [ready.attachment] at attached
    cases attached
  have balanced := account_balanced (World.ofServer server) .blank steps begun connected
  exact {
    paused := balanced.paused
    balance := balanced.balance
    counted := fun few => Nat.eq_zero_of_not_pos fun lost => Nat.not_lt.mpr few (balanced.losses lost)
    spent := fun _ => spends_leaves
    left := fun heard left => left_safepoint _ heard connected left
    ignored := fun _ comes runs => running_step_ignored _ comes runs }

-- A client has the collector run a step, pauses it and grants two steps; one of them has been used up,
-- and a second safepoint waits to be left.
theorem paused_client_grants :
    let attaches : List (Step MemorySink) := .start { bind := .ok, first := .error .brokenPipe } ::
      .happens (.arrive (.client .unlimited)) :: List.replicate 5 (.happens .accept)
    let grants : List (Step MemorySink) :=
      .happens (.receive 1 [0, 0, 0, 4, 0x83, 0x82, 0x83, 0x83]) :: List.replicate 5 (.happens (.read 1))
    let safepoint : List (Step MemorySink) := .call (.safepoint ⟨0⟩) :: List.replicate 3 .proceed
    let steps := attaches ++ grants ++ safepoint ++ [.proceed] ++ safepoint
    ∃ made : Server MemorySink, Server.make {} ["gc"] = .ok made ∧
      let world := (World.ofServer made).run steps
      (World.ofServer made).account .blank steps = ⟨2, 1, 0⟩ ∧
      world.server.attachment.connected = true ∧ world.progress.wasHeard = true ∧
      (world.step .proceed).1 = some (.ok ()) ∧
      world.reckon ((World.ofServer made).account .blank steps) .proceed = ⟨2, 2, 0⟩ ∧
      (world.step .proceed).2.server.attachment.steps = 0 := by
  intro attaches grants safepoint steps
  have waits : (Server.make (σ := MemorySink) {} ["gc"]).toOption.any (fun made =>
      let world := (World.ofServer made).run steps
      decide ((World.ofServer made).account .blank steps = ⟨2, 1, 0⟩ ∧
        world.server.attachment = ⟨true, 1, true, 1, []⟩ ∧ world.progress.wasHeard = true ∧
        world.spends .proceed = true)) = true := by
    simp only [steps, attaches, grants, safepoint]
    decide +kernel
  generalize steps = steps at waits ⊢
  obtain ⟨made, created, passes⟩ := Wire.except_any_ok waits
  obtain ⟨account, attachment, heard, spends⟩ := of_decide_eq_true passes
  have connected : ((World.ofServer made).run steps).server.attachment.connected = true := by
    rw [attachment]
  have settled := granted_steps_balance {} ["gc"] [] made made created rfl steps connected
  have left := settled.spent .proceed spends
  rcases settled.left heard left with running | forStep
  · have runs := running.runs
    rw [attachment] at runs
    cases runs
  · refine ⟨made, created, account, connected, heard, left, ?_, ?_⟩
    · exact forStep.account.trans (by rw [account])
    · simp [forStep.attachment, attachment]

end HeapScope
