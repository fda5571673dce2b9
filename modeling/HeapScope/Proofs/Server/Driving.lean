import HeapScope.Proofs.LinearSpace.Conduct
import HeapScope.Proofs.Server.Resilience

namespace HeapScope

namespace LinearSpace

variable {ρ : Type} [Reporter ρ]

theorem count_alike (space : LinearSpace) (pending : Bool) (tile : Nat) (live : Bool) :
    ({ space with namesPending := pending } : LinearSpace).count tile live =
      ((space.count tile live).1, { (space.count tile live).2 with namesPending := pending }) := by
  simp only [count]
  cases space.objects.increment tile 1 with
  | error error => rfl
  | ok objects =>
    cases live with
    | true => cases space.live.increment tile 1 <;> simp only [if_true]
    | false => cases space.dead.increment tile 1 <;> simp only [Bool.false_eq_true, if_false]

theorem perform_alike (space : LinearSpace) (pending : Bool) (call : Call) :
    ∃ after, ({ space with namesPending := pending } : LinearSpace).perform call =
      ((space.perform call).1, { (space.perform call).2 with namesPending := after }) := by
  cases call with
  | scan address size live =>
    refine ⟨pending, ?_⟩
    simp only [perform, scan]
    cases space.tiling.indexOf? address.toNat with
    | none => rfl
    | some tile =>
      dsimp only
      generalize space.used.distribute space.tiling address size = spread
      obtain ⟨outcome, used⟩ := spread
      cases outcome with
      | error error => rfl
      | ok done => exact count_alike { space with used } pending tile live
  | resize start stop =>
    simp only [perform, resize]
    cases Tiling.make start stop space.tiling.blockSize with
    | error error => exact ⟨pending, rfl⟩
    | ok tiling =>
      cases counted : checkTileCount tiling with
      | error error => exact ⟨pending, by simp only [bind, Except.bind, counted, perform.settle]⟩
      | ok tileCount =>
        exact ⟨true, by simp only [bind, Except.bind, counted, perform.settle, pure, Except.pure]⟩
  | setCursor address =>
    refine ⟨pending, ?_⟩
    simp only [perform, setCursor]
    split <;> rfl
  | setSeparator tile =>
    refine ⟨pending, ?_⟩
    simp only [perform, setSeparator]
    cases space.tiling.checkTile tile <;> rfl
  | setInfo info => exact ⟨pending, rfl⟩
  | reset => exact ⟨pending, rfl⟩

theorem transmit_alike (space : LinearSpace) (reporter : ρ) (event : EventId)
    (started stopped : Duration) :
    ∃ after, (space.transmit reporter event started stopped).space =
      { space with namesPending := after } := by
  rcases space.transmit_space reporter event started stopped with unmoved | ⟨_, unpended⟩
  · exact ⟨space.namesPending, unmoved⟩
  · exact ⟨false, unpended⟩

end LinearSpace

theorem perform_all_cons {ρ : Type} [Reporter ρ] (reporter : ρ) (call : ReportCall)
    {calls : List ReportCall} (succeeds : (Reporter.perform reporter call).1 = .ok ()) :
    performAll reporter (call :: calls) =
      { performAll (Reporter.perform reporter call).2 calls with
        made := call :: (performAll (Reporter.perform reporter call).2 calls).made } := by
  rw [performAll]
  cases answer : Reporter.perform reporter call with
  | mk outcome next =>
    rw [answer] at succeeds
    obtain rfl : outcome = .ok () := succeeds
    rfl

namespace CrowdedServer

variable {σ : Type} [Sink σ] {settings : Settings} {info : ServerInfo}
  {conduct next : Option OpenReport} {server : CrowdedServer σ}

theorem crowd_progress (world : World σ) (happenings : List (Happening σ)) :
    ∃ change, (happenings.foldl World.happen world).progress = world.progress.mapTaken change := by
  induction happenings generalizing world with
  | nil => exact ⟨id, world.progress.map_taken_id.symm⟩
  | cons happening happenings ih =>
    obtain ⟨first, one⟩ := world.happen_progress happening
    obtain ⟨rest, others⟩ := ih (world.happen happening)
    refine ⟨rest ∘ first, ?_⟩
    rw [List.foldl_cons, others, one]
    cases world.progress with
    | adopting taken opening => simp only [Progress.mapTaken, Option.map_map]
    | _ => rfl

theorem crowd_behaves (world : World σ) (happenings : List (Happening σ))
    (behaves : Behaves settings info conduct world) :
    Behaves settings info conduct (happenings.foldl World.happen world) := by
  induction happenings generalizing world with
  | nil => exact behaves
  | cons happening happenings ih => exact ih _ (happen_behaves behaves happening)

theorem follow_behaves (room : 15 ≤ settings.frameLimit) (moves : Nat)
    (behaves : Behaves settings info conduct server.world) :
    (server.follow moves).1 = .ok () ∧ Behaves settings info conduct (server.follow moves).2.world := by
  induction moves generalizing server with
  | zero => exact ⟨rfl, behaves⟩
  | succ moves ih =>
    obtain ⟨succeeds, after⟩ := proceed_behaves room
      (crowd_behaves server.world (server.crowd.headD []) behaves)
    have moved : server.move .proceed =
        (((server.crowd.headD []).foldl World.happen server.world).proceed.1,
          ⟨((server.crowd.headD []).foldl World.happen server.world).proceed.2, server.crowd.tail⟩) := rfl
    rw [follow, moved]
    generalize World.proceed ((server.crowd.headD []).foldl World.happen server.world) = result
      at succeeds after
    obtain ⟨answer, world⟩ := result
    cases answer with
    | some answer => exact ⟨succeeds answer rfl, after⟩
    | none => exact ih after

theorem move_call (ready : server.world.progress = .ready) (call : ReportCall) :
    ∃ world : World σ, world = (server.crowd.headD []).foldl World.happen server.world ∧
      world.progress = .ready ∧
      server.move (.call call) = ((world.call call).1, ⟨(world.call call).2, server.crowd.tail⟩) := by
  obtain ⟨change, progress⟩ := crowd_progress server.world (server.crowd.headD [])
  rw [ready] at progress
  have idle : ((server.crowd.headD []).foldl World.happen server.world).progress = .ready := progress
  refine ⟨_, rfl, idle, ?_⟩
  simp only [move, World.step, idle, Progress.isReady, if_true]

theorem perform_behaves (room : 15 ≤ settings.frameLimit)
    (behaves : Behaves settings info conduct server.world) (ready : server.world.progress = .ready)
    (call : ReportCall)
    (keeps : conductAfter settings.frameLimit info.events.length conduct call = some next) :
    (server.perform call).1 = .ok () ∧ Behaves settings info next (server.perform call).2.world := by
  obtain ⟨world, crowded, idle, moved⟩ := move_call ready call
  have before := crowd_behaves server.world (server.crowd.headD []) behaves
  rw [← crowded] at before
  obtain ⟨succeeds, after⟩ := call_behaves room before idle call keeps
  rw [perform, moved]
  generalize world.call call = result at succeeds after
  obtain ⟨answer, world⟩ := result
  cases answer with
  | some answer => exact ⟨succeeds answer rfl, after⟩
  | none => exact follow_behaves room movesPerCall after

theorem follow_opening {event : EventId} {space : SpaceId} {tileCount : UInt32}
    (is : server.world.progress = .opening event space tileCount) (moves : Nat) :
    (server.follow (moves + 1)).2.world.progress = .ready := by
  obtain ⟨change, progress⟩ := crowd_progress server.world (server.crowd.headD [])
  rw [is] at progress
  have opening : ((server.crowd.headD []).foldl World.happen server.world).progress =
      .opening event space tileCount := progress
  simp only [follow, move, World.step, World.proceed, opening, World.tell]

theorem follow_adopting {taken : Option (Client σ)} {event : EventId} {space : SpaceId}
    {tileCount : UInt32} (is : server.world.progress = .adopting taken (.report event space tileCount))
    (moves : Nat) : (server.follow (moves + 2)).2.world.progress = .ready := by
  obtain ⟨change, progress⟩ := crowd_progress server.world (server.crowd.headD [])
  rw [is] at progress
  have adopting : ((server.crowd.headD []).foldl World.happen server.world).progress =
      .adopting (taken.map change) (.report event space tileCount) := progress
  have opened : (server.move .proceed).1 = none ∧
      (server.move .proceed).2.world.progress = .opening event space tileCount := by
    simp only [move, World.step, World.proceed, adopting]
    exact ⟨trivial, rfl⟩
  rw [follow]
  generalize server.move .proceed = moved at opened
  obtain ⟨answer, next⟩ := moved
  obtain ⟨rfl, opening⟩ := opened
  exact follow_opening opening moves

theorem perform_ready (ready : server.world.progress = .ready) (call : ReportCall)
    (reports : ∀ event, call ≠ .safepoint event) :
    (server.perform call).2.world.progress = .ready := by
  obtain ⟨world, _, idle, moved⟩ := move_call ready call
  rw [perform, moved]
  have made := world.call_called call
  generalize world.call call = result at made ⊢
  cases made with
  | refused opening unknown => exact idle
  | taken opening registered =>
    cases opening with
    | report event space tileCount => exact follow_adopting rfl 2
    | safepoint event => exact absurd rfl (reports event)
  | started now => exact idle
  | stopped now => exact idle
  | told call handsOn => rfl

theorem perform_all_behaves (room : 15 ≤ settings.frameLimit) (calls : List ReportCall)
    (reports : ∀ call ∈ calls, ∀ event, call ≠ .safepoint event)
    (behaves : Behaves settings info conduct server.world) (ready : server.world.progress = .ready)
    (keeps : calls.foldlM (conductAfter settings.frameLimit info.events.length) conduct = some next) :
    (performAll server calls).outcome = .ok () ∧
      Behaves settings info next (performAll server calls).reporter.world ∧
      (performAll server calls).reporter.world.progress = .ready := by
  induction calls generalizing server conduct with
  | nil =>
    cases keeps
    exact ⟨rfl, behaves, ready⟩
  | cons call calls ih =>
    rw [List.foldlM_cons] at keeps
    obtain ⟨middle, first, others⟩ := Option.bind_eq_some_iff.mp keeps
    obtain ⟨succeeds, after⟩ := perform_behaves room behaves ready call first
    have readyAfter := perform_ready ready call (reports call List.mem_cons_self)
    rw [perform_all_cons server call succeeds]
    exact ih (fun other member => reports other (List.mem_cons_of_mem call member)) after readyAfter others

theorem report_calls_quiet (space : LinearSpace) (withNames : Bool) :
    ∀ call ∈ space.reportCalls withNames, ∀ event, call ≠ .safepoint event := by
  rintro call member event rfl
  rw [LinearSpace.report_calls_end] at member
  rcases List.mem_append.mp member with written | ended
  · obtain ⟨write, named⟩ := space.report_writes withNames _ written
    cases named
  · cases List.mem_singleton.mp ended

variable {space : LinearSpace}

theorem send_behaves (room : 15 ≤ settings.frameLimit) (behaves : Behaves settings info none server.world)
    (ready : server.world.progress = .ready) (sound : space.Sound) (held : space.Held)
    (told : space.infoText.utf8ByteSize < 256 ^ 2) {event : EventId}
    (known : event.index < info.events.length)
    (roomy : Roomy settings.frameLimit (space.reportSize event true)) :
    (space.send server event).outcome = .ok () ∧
      Behaves settings info none (space.send server event).reporter.world ∧
      (space.send server event).reporter.world.progress = .ready := by
  obtain ⟨succeeds, opened⟩ := perform_behaves room behaves ready
    (.beginSpace event space.id space.descriptor.tileCount) (space.begin_conduct known roomy)
  have openedReady := perform_ready ready
    (.beginSpace event space.id space.descriptor.tileCount) nofun
  cases begun : server.perform (.beginSpace event space.id space.descriptor.tileCount) with
  | mk outcome next =>
    rw [begun] at succeeds opened openedReady
    obtain rfl : outcome = .ok () := succeeds
    have answered : Reporter.perform server
        (.beginSpace event space.id space.descriptor.tileCount) = (.ok (), next) := begun
    simp only [LinearSpace.send, answered]
    generalize (space.namesPending || Reporter.needsTileNames next space.id) = withNames
    obtain ⟨made, after, readyAfter⟩ := perform_all_behaves room (space.reportCalls withNames)
      (report_calls_quiet space withNames) opened openedReady
      (LinearSpace.report_conduct sound held told event roomy withNames)
    generalize performAll next (space.reportCalls withNames) = performed at made after readyAfter
    obtain ⟨outcome, calls, reporter⟩ := performed
    obtain rfl : outcome = .ok () := made
    exact ⟨rfl, after, readyAfter⟩

theorem transmit_behaves (server : CrowdedServer σ) (room : 15 ≤ settings.frameLimit)
    (behaves : Behaves settings info none server.world) (ready : server.world.progress = .ready)
    (sound : space.Sound) (held : space.Held) (told : space.infoText.utf8ByteSize < 256 ^ 2)
    {event : EventId} (roomy : Roomy settings.frameLimit (space.reportSize event true))
    (started stopped : Duration) :
    (space.transmit server event started stopped).outcome = .ok () ∧
      Behaves settings info none (space.transmit server event started stopped).reporter.world ∧
      (space.transmit server event started stopped).reporter.world.progress = .ready := by
  unfold LinearSpace.transmit
  split
  · rename_i connected
    have known : event.index < info.events.length := by
      have registered := (Bool.and_eq_true_iff.mp connected).1
      rw [Server.isRegistered, behaves.custody.info] at registered
      exact of_decide_eq_true registered
    obtain ⟨_, running⟩ := perform_behaves room behaves ready (.startTimer started) rfl
    have runningReady := perform_ready ready (.startTimer started) fun _ => (by simp)
    obtain ⟨succeeds, sent, sentReady⟩ := send_behaves room running runningReady sound held told known roomy
    obtain ⟨_, after⟩ := perform_behaves room sent sentReady (.stopTimer stopped) rfl
    exact ⟨succeeds, after, perform_ready sentReady (.stopTimer stopped) fun _ => (by simp)⟩
  · exact ⟨rfl, behaves, ready⟩

end CrowdedServer

structure Driven (σ : Type) where
  space : LinearSpace
  alone : LinearSpace
  world : World σ

inductive Deed (σ : Type) where
  | collect (call : LinearSpace.Call)
  | transmit (event : EventId) (started stopped : Duration) (crowd : List (List (Happening σ)))
  | step (step : Step σ)

namespace Driven

variable {σ : Type} [Sink σ]

-- The answers to the calls that return, from the server and from nobody. A collector that is in a call
-- does nothing else.
def deed (driven : Driven σ) : Deed σ → List (Except Error Unit × Except Error Unit) × Driven σ
  | .collect call =>
    if driven.world.progress.isReady then
      let seen := driven.space.perform call
      let alone := driven.alone.perform call
      ([(seen.1, alone.1)], { driven with space := seen.2, alone := alone.2 })
    else ([], driven)
  | .transmit event started stopped crowd =>
    if driven.world.progress.isReady then
      let sent := driven.space.transmit (⟨driven.world, crowd⟩ : CrowdedServer σ) event started stopped
      let alone := driven.alone.transmit Silent.mk event started stopped
      ([(sent.outcome, alone.outcome)], ⟨sent.space, alone.space, sent.reporter.world⟩)
    else ([], driven)
  | .step step =>
    let stepped := driven.world.step step
    (stepped.1.toList.map (·, .ok ()), { driven with world := stepped.2 })

def run (driven : Driven σ) (deeds : List (Deed σ)) : Driven σ :=
  deeds.foldl (fun driven deed => (driven.deed deed).2) driven

def answers (driven : Driven σ) : List (Deed σ) → List (Except Error Unit × Except Error Unit)
  | [] => []
  | deed :: deeds => (driven.deed deed).1 ++ answers (driven.deed deed).2 deeds

def follow (limit events : Nat) (driven : Driven σ) (conduct : Option OpenReport) :
    Deed σ → Option (Option OpenReport)
  | .collect _ => some conduct
  | .transmit event _ _ _ =>
    if driven.world.progress.isReady = true → conduct = none ∧
        driven.space.infoText.utf8ByteSize < 256 ^ 2 ∧
        Roomy limit (driven.space.reportSize event true) then
      some conduct
    else none
  | .step step => (driven.world.made step).toList.foldlM (conductAfter limit events) conduct

def conduct? (limit events : Nat) (driven : Driven σ) (conduct : Option OpenReport) :
    List (Deed σ) → Option (Option OpenReport)
  | [] => some conduct
  | deed :: deeds => (driven.follow limit events conduct deed).bind fun next =>
      conduct? limit events (driven.deed deed).2 next deeds

def Conforming (limit events : Nat) (driven : Driven σ) (deeds : List (Deed σ)) : Prop :=
  (driven.conduct? limit events none deeds).isSome

instance (limit events : Nat) (driven : Driven σ) (deeds : List (Deed σ)) :
    Decidable (driven.Conforming limit events deeds) := inferInstanceAs (Decidable (_ = true))

def Alike (driven : Driven σ) : Prop :=
  driven.space = { driven.alone with namesPending := driven.space.namesPending }

variable {driven : Driven σ}

omit [Sink σ] in
theorem collect_alike (alike : driven.Alike) (call : LinearSpace.Call) :
    (driven.space.perform call).1 = (driven.alone.perform call).1 ∧
      (⟨(driven.space.perform call).2, (driven.alone.perform call).2, driven.world⟩ :
        Driven σ).Alike := by
  obtain ⟨after, same⟩ := driven.alone.perform_alike driven.space.namesPending call
  rw [← alike] at same
  unfold Alike
  rw [same]
  exact ⟨rfl, rfl⟩

theorem deed_alike (alike : driven.Alike) (deed : Deed σ) : (driven.deed deed).2.Alike := by
  cases deed with
  | collect call =>
    rw [Driven.deed]
    split
    · exact (collect_alike alike call).2
    · exact alike
  | transmit event started stopped crowd =>
    rw [Driven.deed]
    split
    · obtain ⟨after, sent⟩ := driven.space.transmit_alike (⟨driven.world, crowd⟩ : CrowdedServer σ) event
        started stopped
      unfold Alike
      dsimp only
      rw [sent]
      exact congrArg (fun space : LinearSpace => { space with namesPending := after }) alike
    · exact alike
  | step step => exact alike

theorem run_alike (alike : driven.Alike) (deeds : List (Deed σ)) : (driven.run deeds).Alike := by
  induction deeds generalizing driven with
  | nil => exact alike
  | cons deed deeds ih => exact ih (deed_alike alike deed)

structure Conforms (settings : Settings) (info : ServerInfo) (conduct : Option OpenReport)
    (driven : Driven σ) : Prop where
  alike : driven.Alike
  sound : driven.space.Sound
  held : driven.space.Held
  behaves : Behaves settings info conduct driven.world

variable {settings : Settings} {info : ServerInfo} {conduct next : Option OpenReport}

theorem transmit_conforms (room : 15 ≤ settings.frameLimit)
    (conforms : driven.Conforms settings info none) (ready : driven.world.progress = .ready)
    (event : EventId) (started stopped : Duration) (crowd : List (List (Happening σ)))
    (told : driven.space.infoText.utf8ByteSize < 256 ^ 2)
    (roomy : Roomy settings.frameLimit (driven.space.reportSize event true)) :
    let done := driven.deed (.transmit event started stopped crowd)
    (∀ answer ∈ done.1, answer.1 = answer.2) ∧ done.2.Conforms settings info none := by
  have alike := deed_alike conforms.alike (.transmit event started stopped crowd)
  obtain ⟨after, same⟩ := driven.space.transmit_alike (⟨driven.world, crowd⟩ : CrowdedServer σ) event
    started stopped
  obtain ⟨succeeds, behaves, _⟩ := CrowdedServer.transmit_behaves ⟨driven.world, crowd⟩ room
    conforms.behaves ready conforms.sound conforms.held told roomy started stopped
  intro done
  have is : driven.world.progress.isReady = true := by rw [ready]; rfl
  simp only [done, Driven.deed, if_pos is] at alike ⊢
  refine ⟨?_, alike, ?_, ?_, behaves⟩
  · intro answer member
    rw [List.mem_singleton.mp member]
    exact succeeds
  · rw [same]
    exact { conforms.sound with }
  · rw [same]
    exact { conforms.held with }

theorem deed_conforms (room : 15 ≤ settings.frameLimit) (conforms : driven.Conforms settings info conduct)
    (deed : Deed σ)
    (keeps : driven.follow settings.frameLimit info.events.length conduct deed = some next) :
    (∀ answer ∈ (driven.deed deed).1, answer.1 = answer.2) ∧
      (driven.deed deed).2.Conforms settings info next := by
  have none : ∀ answer ∈ ([] : List (Except Error Unit × Except Error Unit)), answer.1 = answer.2 :=
    fun _ member => (List.not_mem_nil member).elim
  cases deed with
  | collect call =>
    cases keeps
    rw [Driven.deed]
    split
    · obtain ⟨same, alike⟩ := collect_alike conforms.alike call
      refine ⟨?_, alike, ?_, ?_, conforms.behaves⟩
      · intro answer member
        rw [List.mem_singleton.mp member]
        exact same
      · exact (LinearSpace.perform_range conforms.sound call).1
      · exact LinearSpace.perform_held conforms.sound conforms.held call
    · exact ⟨none, conforms⟩
  | transmit event started stopped crowd =>
    rw [Driven.follow] at keeps
    split at keeps
    · rename_i fits
      cases keeps
      cases is : driven.world.progress.isReady with
      | true =>
        obtain ⟨rfl, told, roomy⟩ := fits is
        exact transmit_conforms room conforms (Progress.ready_of_is_ready is) event started stopped crowd
          told roomy
      | false =>
        rw [Driven.deed, if_neg (by simp [is])]
        exact ⟨none, conforms⟩
    · cases keeps
  | step step =>
    obtain ⟨succeeds, behaves⟩ := step_behaves room conforms.behaves step keeps
    refine ⟨?_, conforms.alike, conforms.sound, conforms.held, behaves⟩
    intro answer member
    obtain ⟨given, told, rfl⟩ := List.mem_map.mp member
    exact succeeds given (Option.mem_toList.mp told)

theorem run_conforms (room : 15 ≤ settings.frameLimit) (conforms : driven.Conforms settings info conduct)
    (deeds : List (Deed σ))
    (keeps : (driven.conduct? settings.frameLimit info.events.length conduct deeds).isSome) :
    ∀ answer ∈ driven.answers deeds, answer.1 = answer.2 := by
  induction deeds generalizing driven conduct with
  | nil => exact fun _ member => (List.not_mem_nil member).elim
  | cons deed deeds ih =>
    rw [conduct?] at keeps
    cases followed : driven.follow settings.frameLimit info.events.length conduct deed with
    | none =>
      rw [followed] at keeps
      cases keeps
    | some next =>
      rw [followed] at keeps
      obtain ⟨same, after⟩ := deed_conforms room conforms deed followed
      intro answer member
      rcases List.mem_append.mp member with now | later
      · exact same answer now
      · exact ih after keeps answer later

end Driven

variable {σ : Type} [Sink σ]

end HeapScope
