import HeapScope.Proofs.Server.Custody

namespace HeapScope.Custody

variable {σ : Type}

theorem anyone_fair {custody : Custody σ} (sound : ∀ sink, custody.sound sink)
    (changes : ∀ change, custody.changes change) (step : Step σ) : custody.FairStep step := by
  cases step with
  | start machine => exact fun sink _ => sound sink
  | happens happening =>
    cases happening with
    | arrive arrival =>
      cases arrival with
      | client sink => exact sound sink
      | _ => trivial
    | change generation change => exact changes change
    | _ => trivial
  | _ => trivial

structure Keeps [Sink σ] (custody : Custody σ) (allowed : ReportCall → Prop) (settings : Settings)
    (info : ServerInfo) : Prop where
  lawful : custody.Lawful settings info
  fair : ∀ step, custody.FairStep step
  adopts : ∀ client, custody.pending client → custody.writing client
  accepts : ∀ client recorder call, allowed call → custody.writing client →
    client.recorder.perform call = (.ok (), recorder) → custody.writing { client with recorder }
  discards : ∀ client recorder, custody.writing client →
    custody.writing { client with recorder := Recorder.discard recorder }
  charges : ∀ client length, custody.writing client →
    custody.writing { client with recorder := client.recorder.addCompensation length }
  leaves : ∀ client recorder, custody.writing client → custody.gone { client with recorder }

structure Kept (custody : Custody σ) (allowed : ReportCall → Prop) (settings : Settings)
    (info : ServerInfo) (world : World σ) : Prop where
  holds : custody.Holds settings info world.server world.progress.taken
  allows : ∀ call, world.progress.call? = some call → allowed call

theorem same_event {opening other : Opening} (same : opening.call = other.call) :
    opening.event = other.event := by
  cases opening <;> cases other <;> cases same <;> rfl

variable [Sink σ] {custody : Custody σ} {allowed : ReportCall → Prop} {settings : Settings}
  {info : ServerInfo} {world : World σ}

theorem tell_kept (keeps : custody.Keeps allowed settings info) {call : ReportCall} (allows : allowed call)
    (holds : custody.Holds settings info world.server none) :
    custody.Holds settings info (world.tell call).2.server none := by
  refine with_writer_holds holds custody.writing (·.perform call) ?_ ?_ ?_
  · intro client recorder is accepted
    exact keeps.accepts client recorder call allows (holds.writer client is) accepted
  · intro client recorder error is _ _
    exact keeps.leaves client recorder (holds.writer client is)
  · intro client recorder error is _ _
    exact keeps.discards client recorder (holds.writer client is)

theorem call_kept (keeps : custody.Keeps allowed settings info)
    (kept : custody.Kept allowed settings info world) (ready : world.progress = .ready) (call : ReportCall)
    (made : (∀ opening : Opening, call = opening.call → world.server.isRegistered opening.event = true) →
      allowed call) :
    custody.Kept allowed settings info (world.call call).2 := by
  have holds := kept.holds
  rw [ready] at holds
  have opens (opening : Opening) (is : call = opening.call) :
      custody.Kept allowed settings info (world.take opening).2 := by
    by_cases registered : world.server.isRegistered opening.event = true
    · rw [World.take_registered world opening registered]
      refine ⟨take_holds holds, fun told same => ?_⟩
      obtain rfl : opening.call = told := Option.some.inj same
      exact is ▸ made fun other again => same_event (is.symm.trans again) ▸ registered
    · rw [World.take_unregistered world opening registered]
      exact kept
  have told (hands : ∀ opening : Opening, call ≠ opening.call) :
      custody.Kept allowed settings info (world.tell call).2 :=
    ⟨tell_kept keeps (made fun opening is => absurd is (hands opening)) holds, nofun⟩
  cases call with
  | beginSpace event space tileCount => exact opens (.report event space tileCount) rfl
  | safepoint event => exact opens (.safepoint event) rfl
  | startTimer now => exact ⟨aside_holds kept.holds ⟨rfl, rfl, rfl, rfl, rfl, rfl, rfl⟩, kept.allows⟩
  | stopTimer now => exact ⟨stop_timer_holds kept.holds now keeps.charges, kept.allows⟩
  | tileNames | streamData | control | putControl | summary | spaceInfo | endSpace =>
    exact told fun opening => by cases opening <;> nofun

theorem proceed_kept (keeps : custody.Keeps allowed settings info)
    (kept : custody.Kept allowed settings info world) :
    custody.Kept allowed settings info world.proceed.2 := by
  obtain ⟨holds, allows⟩ := kept
  have move := world.proceed_proceeds
  generalize world.proceed = moved at move ⊢
  cases move with
  | rests => exact ⟨holds, allows⟩
  | adopts taken opening is =>
    rw [is] at holds allows
    have adopted := adopt_holds keeps.lawful holds keeps.adopts
    cases opening <;> exact ⟨adopted, allows⟩
  | begins event space tileCount is =>
    rw [is] at holds allows
    exact ⟨tell_kept keeps (allows _ rfl) holds, nofun⟩
  | hears event is =>
    rw [is] at holds allows
    exact ⟨holds, allows⟩
  | passes event is =>
    rw [is] at holds
    exact ⟨holds, nofun⟩
  | fails event is error next told =>
    rw [is] at holds allows
    have after := tell_kept keeps (allows _ rfl) holds
    have rests : (world.tell (.safepoint event)).2.progress = .ready := rfl
    rw [told] at after rests
    exact ⟨rests ▸ after, rests ▸ nofun⟩
  | tells event is next told =>
    rw [is] at holds allows
    have after := tell_kept keeps (allows _ rfl) holds
    rw [told] at after
    exact ⟨after, nofun⟩
  | resumes attachment is lets =>
    rw [is] at holds
    exact ⟨aside_holds holds ⟨rfl, rfl, rfl, rfl, rfl, rfl, rfl⟩, nofun⟩

theorem happen_kept (keeps : custody.Keeps allowed settings info)
    (kept : custody.Kept allowed settings info world) (happening : Happening σ) :
    custody.Kept allowed settings info (world.happen happening) :=
  ⟨happen_holds keeps.lawful kept.holds happening (keeps.fair (.happens happening)),
    happen_call world happening ▸ kept.allows⟩

theorem shut_kept (keeps : custody.Keeps allowed settings info)
    (kept : custody.Kept allowed settings info world) (move : Closing) :
    custody.Kept allowed settings info (world.shut move) := by
  by_cases goodbye : move = .dismiss
  · subst goodbye
    refine ⟨dismiss_holds kept.holds custody.writing ?_, kept.allows⟩
    intro client member
    rcases List.mem_append.mp member with writes | waits
    · exact keeps.leaves client _ (kept.holds.writer client (Option.mem_toList.mp writes))
    · have adopted := keeps.adopts client (kept.holds.incoming client (Option.mem_toList.mp waits))
      exact keeps.leaves client _ adopted
  · have shut := shut_holds kept.holds move goodbye
    cases move <;> exact ⟨shut, kept.allows⟩

theorem crowd_holds (keeps : custody.Keeps allowed settings info) (happenings : List (Happening σ))
    (holds : custody.Holds settings info world.server world.progress.taken) :
    custody.Holds settings info (happenings.foldl World.happen world).server
      (happenings.foldl World.happen world).progress.taken := by
  induction happenings generalizing world with
  | nil => exact holds
  | cons happening happenings ih =>
    exact ih (happen_holds keeps.lawful holds happening (keeps.fair (.happens happening)))

theorem step_kept (keeps : custody.Keeps allowed settings info)
    (kept : custody.Kept allowed settings info world) (step : Step σ)
    (made : ∀ call, world.made step = some call →
      (∀ opening : Opening, call = opening.call → world.server.isRegistered opening.event = true) →
      allowed call) : custody.Kept allowed settings info (world.step step).2 := by
  cases step with
  | call call =>
    by_cases ready : world.progress.isReady = true
    · simpa [World.step, ready] using
        call_kept keeps kept (Progress.ready_of_is_ready ready) call (made call (if_pos ready))
    · simpa [World.step, ready] using kept
  | proceed => exact proceed_kept keeps kept
  | start machine =>
    by_cases ready : world.progress.isReady = true
    · simpa [World.step, ready] using
        ⟨start_holds keeps.lawful kept.holds machine (keeps.fair (.start machine)), kept.allows⟩
    · simpa [World.step, ready] using kept
  | closing move =>
    by_cases ready : world.progress.isReady = true
    · simpa [World.step, ready] using shut_kept keeps kept move
    · simpa [World.step, ready] using kept
  | happens happening => exact happen_kept keeps kept happening

theorem run_kept (keeps : custody.Keeps allowed settings info)
    (kept : custody.Kept allowed settings info world) (steps : List (Step σ))
    (made : ∀ call ∈ world.calls steps,
      (∀ opening : Opening, call = opening.call → opening.event.index < info.events.length) →
      allowed call) : custody.Kept allowed settings info (world.run steps) := by
  induction steps generalizing world with
  | nil => exact kept
  | cons step steps ih =>
    refine ih (step_kept keeps kept step fun call is registered => ?_) fun call member =>
      made call (List.mem_append_right _ member)
    refine made call (List.mem_append_left _ (Option.mem_toList.mpr is)) fun opening same => ?_
    simpa [Server.isRegistered, kept.holds.info] using registered opening same

end HeapScope.Custody
