import HeapScope.Proofs.Report.Conduct
import HeapScope.Proofs.Server.Custody

/- Clients cannot make the calls of a collector fail. Whichever client is the writer stands where the
   conduct of the collector says, and those who wait stand before any report; a client becomes the writer
   only where that is the same (`Behaves`). Every move keeps it, so that all calls that keep to the rules
   and return have succeeded (`run_behaves`). -/
namespace HeapScope

open Custody

variable {σ : Type}

def standing (limit : Nat) (heard : Option OpenReport) : Custody σ where
  sound _ := True
  changes _ := True
  fresh := Stands limit none
  pending client := Stands limit none client.recorder
  writing client := Stands limit heard client.recorder
  gone _ := True

def heard (progress : Progress σ) (conduct : Option OpenReport) : Option OpenReport :=
  if progress.call?.isSome then none else conduct

structure Behaves (settings : Settings) (info : ServerInfo) (conduct : Option OpenReport)
    (world : World σ) : Prop where
  custody : (standing settings.frameLimit (heard world.progress conduct)).Holds settings info
    world.server world.progress.taken
  expects : ∀ call, world.progress.call? = some call →
    conductAfter settings.frameLimit info.events.length none call = some conduct

theorem flush_ok [Sink σ] {recorder next : Recorder σ} (flushed : recorder.flushFrame = (.ok (), next)) :
    ∃ sink, next = { recorder with frame := .empty, sink } := by
  unfold Recorder.flushFrame at flushed
  split at flushed
  · cases flushed
  · rename_i bytes frame finished
    obtain ⟨_, _, _, rfl⟩ := FrameBuilder.finish_ok finished
    dsimp only at flushed
    split at flushed
    · cases flushed
    · split at flushed
      · cases flushed
      · split at flushed
        · cases flushed
        · cases flushed
          exact ⟨_, rfl⟩

theorem standing_lawful [Sink σ] (settings : Settings) (info : ServerInfo) (heard : Option OpenReport) :
    (standing (σ := σ) settings.frameLimit heard).Lawful settings info where
  greets server sink recorder same _ _ greeted := by
    obtain ⟨hello, next, _, flushed, rfl⟩ := greet_ok greeted
    obtain ⟨after, rfl⟩ := flush_ok flushed
    rw [same]
    exact ⟨rfl, rfl, rfl, rfl⟩
  publishes _ _ stands := stands
  lapses _ _ := trivial
  retires _ _ := trivial
  changesPending _ _ _ stands := ⟨stands.limited, stands.current, stands.size, stands.block⟩
  changesWriting _ _ _ stands := ⟨stands.limited, stands.current, stands.size, stands.block⟩

section Moves

variable [Sink σ] {settings : Settings} {info : ServerInfo} {conduct next : Option OpenReport}
  {world : World σ}

theorem tell_behaves (room : 15 ≤ settings.frameLimit) {before : Option OpenReport} (world : World σ)
    (holds : (standing settings.frameLimit before).Holds settings info world.server none)
    (call : ReportCall)
    (keeps : conductAfter settings.frameLimit info.events.length before call = some next) :
    (world.tell call).1 = .ok () ∧
      (standing settings.frameLimit next).Holds settings info (world.tell call).2.server none := by
  have settles (client : Client σ) (is : world.server.writer = some client) :
      Settles settings.frameLimit next (client.recorder.perform call) :=
    perform_stands (holds.writer client is) room call keeps
  have accepts {client : Client σ} {recorder : Recorder σ} (is : world.server.writer = some client)
      (answer : client.recorder.perform call = (.ok (), recorder)) :
      Stands settings.frameLimit next recorder := by
    rcases settles client is with ⟨after, done, stands⟩ | ⟨cause, after, failed⟩
    · rw [done] at answer
      cases answer
      exact stands
    · rw [failed] at answer
      cases answer
  have refuses {client : Client σ} {recorder : Recorder σ} {error : Error}
      (is : world.server.writer = some client)
      (answer : client.recorder.perform call = (.error error, recorder)) : error.isTransport = true := by
    rcases settles client is with ⟨after, done, _⟩ | ⟨cause, after, failed⟩
    · rw [done] at answer
      cases answer
    · rw [failed] at answer
      cases answer
      rfl
  constructor
  · change (world.server.withWriter (·.perform call)).1 = .ok ()
    rcases world.server.with_writer_cases (·.perform call) with
      ⟨_, done⟩ | ⟨client, recorder, is, ⟨_, done⟩ | ⟨_, _, _, done⟩ | ⟨error, answer, kind, _⟩⟩
    · rw [done]
    · rw [done]
    · rw [done]
    · rw [refuses is answer] at kind
      cases kind
  · refine with_writer_holds holds (fun client => Stands settings.frameLimit next client.recorder)
      (·.perform call) (fun _ _ is answer => accepts is answer) (fun _ _ _ _ _ _ => trivial) ?_
    intro client recorder error is kind answer
    rw [refuses is answer] at kind
    cases kind

omit [Sink σ] in
theorem opening_conduct {limit events : Nat} (opening : Opening)
    (keeps : conductAfter limit events conduct opening.call = some next) :
    conduct = none ∧ opening.event.index < events := by
  cases opening with
  | report event space tileCount =>
    rw [Opening.call, conductAfter] at keeps
    split at keeps
    · rename_i begun
      exact begun
    · cases keeps
  | safepoint event =>
    rw [Opening.call, conductAfter] at keeps
    split at keeps
    · rename_i begun
      exact begun
    · cases keeps

theorem call_behaves (room : 15 ≤ settings.frameLimit) (behaves : Behaves settings info conduct world)
    (ready : world.progress = .ready) (call : ReportCall)
    (keeps : conductAfter settings.frameLimit info.events.length conduct call = some next) :
    (∀ answer, (world.call call).1 = some answer → answer = .ok ()) ∧
      Behaves settings info next (world.call call).2 := by
  have holds := behaves.custody
  rw [ready] at holds
  have move := world.call_called call
  generalize world.call call = made at move ⊢
  cases move with
  | refused opening unknown =>
    have known := (opening_conduct opening keeps).2
    refine absurd ?_ unknown
    rw [Server.isRegistered, holds.info]
    exact decide_eq_true known
  | taken opening registered =>
    obtain ⟨rfl, _⟩ := opening_conduct opening keeps
    refine ⟨nofun, take_holds holds, ?_⟩
    intro made is
    cases is
    exact keeps
  | started now =>
    cases keeps
    exact ⟨fun answer is => (Option.some.inj is).symm,
      aside_holds behaves.custody ⟨rfl, rfl, rfl, rfl, rfl, rfl, rfl⟩, behaves.expects⟩
  | stopped now =>
    cases keeps
    refine ⟨fun answer is => (Option.some.inj is).symm, ?_, behaves.expects⟩
    exact stop_timer_holds behaves.custody now fun _ _ stands =>
      ⟨stands.limited, stands.current, stands.size, stands.block⟩
  | told call handsOn =>
    obtain ⟨succeeds, after⟩ := tell_behaves room world holds call keeps
    exact ⟨fun answer is => Option.some.inj is ▸ succeeds, after, nofun⟩

omit [Sink σ] in
theorem safepoint_conduct {limit events : Nat} {event : EventId}
    (keeps : conductAfter limit events none (.safepoint event) = some conduct) : conduct = none := by
  rw [conductAfter] at keeps
  split at keeps
  · cases keeps
    rfl
  · cases keeps

theorem proceed_behaves (room : 15 ≤ settings.frameLimit) (behaves : Behaves settings info conduct world) :
    (∀ answer, world.proceed.1 = some answer → answer = .ok ()) ∧
      Behaves settings info conduct world.proceed.2 := by
  obtain ⟨holds, expects⟩ := behaves
  have move := world.proceed_proceeds
  generalize world.proceed = moved at move ⊢
  cases move with
  | rests => exact ⟨nofun, holds, expects⟩
  | adopts taken opening is =>
    rw [is] at holds expects
    have adopted := adopt_holds (standing_lawful settings info none) holds fun _ stands => stands
    cases opening <;> exact ⟨nofun, adopted, expects⟩
  | begins event space tileCount is =>
    rw [is] at holds expects
    obtain ⟨succeeds, after⟩ := tell_behaves room world holds _ (expects _ rfl)
    exact ⟨fun answer is => Option.some.inj is ▸ succeeds, after, nofun⟩
  | hears event is =>
    rw [is] at holds expects
    exact ⟨nofun, holds, expects⟩
  | passes event is =>
    rw [is] at holds expects
    obtain rfl := safepoint_conduct (expects _ rfl)
    exact ⟨fun answer is => (Option.some.inj is).symm, holds, nofun⟩
  | fails event is error next told =>
    rw [is] at holds expects
    obtain ⟨succeeds, _⟩ := tell_behaves room world holds _ (expects _ rfl)
    rw [told] at succeeds
    cases succeeds
  | tells event is next told =>
    rw [is] at holds expects
    obtain ⟨_, after⟩ := tell_behaves room world holds _ (expects _ rfl)
    rw [told] at after
    exact ⟨nofun, after, nofun⟩
  | resumes attachment is lets =>
    rw [is] at holds expects
    exact ⟨fun answer is => (Option.some.inj is).symm,
      aside_holds holds ⟨rfl, rfl, rfl, rfl, rfl, rfl, rfl⟩, nofun⟩

theorem happen_behaves (behaves : Behaves settings info conduct world) (happening : Happening σ) :
    Behaves settings info conduct (world.happen happening) := by
  have lawful := standing_lawful (σ := σ) settings info (heard world.progress conduct)
  have call := happen_call world happening
  have fair : (standing settings.frameLimit (heard world.progress conduct)).FairHappening happening := by
    cases happening with
    | arrive arrival => cases arrival <;> trivial
    | _ => trivial
  refine ⟨?_, ?_⟩
  · rw [heard, call]
    exact happen_holds lawful behaves.custody happening fair
  · rw [call]
    exact behaves.expects

theorem step_behaves (room : 15 ≤ settings.frameLimit) (behaves : Behaves settings info conduct world)
    (step : Step σ) (keeps : (world.made step).toList.foldlM
      (conductAfter settings.frameLimit info.events.length) conduct = some next) :
    (∀ answer, (world.step step).1 = some answer → answer = .ok ()) ∧
      Behaves settings info next (world.step step).2 := by
  have quiet (idle : world.made step = none) : next = conduct := by
    rw [idle] at keeps
    exact (Option.some.inj keeps).symm
  have unanswered (answer : Except Error Unit) (is : none = some answer) : answer = .ok () := by cases is
  have lawful := standing_lawful (σ := σ) settings info (heard world.progress conduct)
  cases step with
  | call call =>
    cases ready : world.progress.isReady with
    | true =>
      have is := Progress.ready_of_is_ready ready
      have made : world.made (.call call) = some call := if_pos ready
      rw [made] at keeps
      have follows : conductAfter settings.frameLimit info.events.length conduct call = some next := by
        simpa using keeps
      rw [World.step, if_pos ready]
      exact call_behaves room behaves is call follows
    | false =>
      have busy : ¬world.progress.isReady = true := by simp [ready]
      obtain rfl := quiet (if_neg busy)
      rw [World.step, if_neg busy]
      exact ⟨unanswered, behaves⟩
  | proceed =>
    obtain rfl := quiet rfl
    exact proceed_behaves room behaves
  | start machine =>
    obtain rfl := quiet rfl
    rw [World.step]
    split
    · exact ⟨unanswered, start_holds lawful behaves.custody machine fun _ _ => trivial, behaves.expects⟩
    · exact ⟨unanswered, behaves⟩
  | closing move =>
    obtain rfl := quiet rfl
    rw [World.step]
    refine ⟨unanswered, ?_⟩
    split
    · by_cases goodbye : move = .dismiss
      · subst goodbye
        exact ⟨dismiss_holds behaves.custody _ fun _ _ => trivial, behaves.expects⟩
      · refine ⟨?_, ?_⟩
        · have shut := shut_holds behaves.custody move goodbye
          cases move <;> exact shut
        · cases move <;> exact behaves.expects
    · exact behaves
  | happens happening =>
    obtain rfl := quiet rfl
    exact ⟨unanswered, happen_behaves behaves happening⟩

theorem run_behaves (room : 15 ≤ settings.frameLimit) (behaves : Behaves settings info conduct world)
    (steps : List (Step σ)) (keeps : (world.calls steps).foldlM
      (conductAfter settings.frameLimit info.events.length) conduct = some next) :
    (∀ answer ∈ world.answers steps, answer = .ok ()) ∧
      Behaves settings info next (world.run steps) := by
  induction steps generalizing world conduct with
  | nil =>
    obtain rfl := Option.some.inj keeps
    exact ⟨fun answer member => (List.not_mem_nil member).elim, behaves⟩
  | cons step steps ih =>
    rw [World.calls, List.foldlM_append] at keeps
    obtain ⟨middle, first, others⟩ := Option.bind_eq_some_iff.mp keeps
    obtain ⟨succeeds, after⟩ := step_behaves room behaves step first
    obtain ⟨rest, final⟩ := ih after others
    refine ⟨?_, final⟩
    intro answer member
    rcases List.mem_append.mp member with now | later
    · exact succeeds answer (Option.mem_toList.mp now)
    · exact rest answer later

end Moves

end HeapScope
