import HeapScope.Proofs.Report.Frames
import HeapScope.Proofs.Server.Custody
import HeapScope.Proofs.Server.Numbering

namespace HeapScope

open FrameBuilder Journal Custody

def dealtWith (log : List Dealing) (generation : Nat) : List Dealing :=
  log.filter (·.generation = generation)

def acceptedBy (generation : Nat) (calls : List ReportCall) : List Dealing :=
  calls.map fun call => ⟨generation, .report call, .ok ()⟩

def Told (log : List Dealing) (generation : Nat) : Parcel → Prop
  | .shutdown => ∃ outcome, ⟨generation, .shutdown, outcome⟩ ∈ log
  | .safepoint event _ _ => ∃ outcome, ⟨generation, .report (.safepoint event), outcome⟩ ∈ log
  | .report event space tileCount body => ∃ earlier calls outcome later,
      dealtWith log generation = earlier ++
        acceptedBy generation (.beginSpace event space tileCount :: calls) ++
        ⟨generation, .report (.endSpace space), outcome⟩ :: later ∧
      (∀ call ∈ calls, call.write?.isSome) ∧ body = gather (calls.filterMap ReportCall.write?)

structure Accounted (log : List Dealing) (generation : Nat) (journal : Journal) : Prop where
  fine : journal.transportFailed = false
  begun : ∀ draft, journal.draft = some draft → ∃ earlier calls,
    dealtWith log generation = earlier ++
      acceptedBy generation (.beginSpace draft.event draft.space draft.tileCount :: calls) ∧
    calls.map ReportCall.write? = draft.calls.map some
  told : ∀ parcel ∈ journal.parcels, parcel ≠ .shutdown ∧ Told log generation parcel

theorem dealt_append (log more : List Dealing) (generation : Nat) :
    dealtWith (log ++ more) generation = dealtWith log generation ++ dealtWith more generation :=
  List.filter_append log more

theorem dealt_own (log : List Dealing) (generation : Nat) (action : Recorder.Action)
    (outcome : Except Error Unit) :
    dealtWith (log ++ [⟨generation, action, outcome⟩]) generation =
      dealtWith log generation ++ [⟨generation, action, outcome⟩] := by
  simp [dealtWith]

theorem told_later {log : List Dealing} {generation : Nat} {parcel : Parcel}
    (told : Told log generation parcel) (more : List Dealing) : Told (log ++ more) generation parcel := by
  cases parcel with
  | shutdown =>
    obtain ⟨outcome, member⟩ := told
    exact ⟨outcome, List.mem_append_left more member⟩
  | safepoint event count compensation =>
    obtain ⟨outcome, member⟩ := told
    exact ⟨outcome, List.mem_append_left more member⟩
  | report event space tileCount body =>
    obtain ⟨earlier, calls, outcome, later, dealt, writes, gathered⟩ := told
    refine ⟨earlier, calls, outcome, later ++ dealtWith more generation, ?_, writes, gathered⟩
    rw [dealt_append, dealt, List.append_assoc, List.cons_append]

theorem blank_accounted (log : List Dealing) (generation : Nat) : Accounted log generation .blank where
  fine := rfl
  begun draft drafted := by cases drafted
  told parcel member := by cases member

variable {σ : Type} [Sink σ] {view : SinkView σ} {before : Bytes} {limit : Nat}
  {recorder : Recorder σ} {journal : Journal} {log : List Dealing} {generation : Nat}

theorem record_told (tracks : Tracks view before limit recorder journal)
    (accounted : Accounted log generation journal) (call : ReportCall) :
    ∀ parcel ∈ (journal.after recorder (.report call)).parcels, parcel ≠ .shutdown ∧
      Told (log ++ [⟨generation, .report call, (recorder.perform call).1⟩]) generation parcel := by
  intro parcel member
  rcases List.mem_append.mp member with sent | now
  · obtain ⟨other, told⟩ := accounted.told parcel sent
    exact ⟨other, told_later told _⟩
  · have outcome : (recorder.act (.report call)).1 = (recorder.perform call).1 := rfl
    rw [outcome] at now
    split at now
    case isFalse => cases now
    case isTrue handed =>
      have made := Option.mem_toList.mp now
      cases call with
      | endSpace space =>
        obtain ⟨draft, drafted, rfl⟩ := Option.map_eq_some_iff.mp made
        obtain ⟨earlier, calls, dealt, writes⟩ := accounted.begun draft drafted
        refine ⟨by simp [Draft.parcel], earlier, calls, (recorder.endSpace space).1, [], ?_, ?_, ?_⟩
        · -- An end that was not refused is that of the open report.
          have same : draft.space = space := by
            rcases Recorder.end_space_cases recorder space with
              ⟨error, fault, _, refused⟩ | ⟨frame, is, _⟩
            · change handedOver (recorder.endSpace space).1 = true at handed
              rw [refused] at handed
              rw [handedOver, fault] at handed
              cases handed
            · rw [tracks.current, drafted] at is
              exact Option.some.inj is
          rw [dealt_own, dealt, same]
          rfl
        · intro call member
          have written : call.write? ∈ draft.calls.map some :=
            writes ▸ List.mem_map_of_mem member
          obtain ⟨write, _, named⟩ := List.mem_map.mp written
          rw [← named]
          rfl
        · have same := congrArg (List.filterMap id) writes
          rw [List.filterMap_map, List.filterMap_map] at same
          change gather draft.calls = _
          simpa using congrArg gather same.symm
      | safepoint event =>
        cases made
        exact ⟨by simp, _, List.mem_append_right _ List.mem_cons_self⟩
      | _ => cases made

theorem accepted_accounted (tracks : Tracks view before limit recorder journal)
    (accounted : Accounted log generation journal) (call : ReportCall)
    (handsOn : ∀ now, call ≠ .startTimer now ∧ call ≠ .stopTimer now)
    (accepts : (recorder.perform call).1 = .ok ()) :
    Accounted (log ++ [⟨generation, .report call, .ok ()⟩]) generation
      (journal.after recorder (.report call)) := by
  have told := record_told tracks accounted call
  have answered : (recorder.act (.report call)).1 = .ok () := accepts
  rw [accepts] at told
  rw [after_outcome (.report call) answered] at told ⊢
  refine ⟨?_, ?_, told⟩
  · change (journal.transportFailed || false) = false
    rw [accounted.fine]
    rfl
  · intro draft drafted
    change draftAfter journal.draft (.report call) (.ok ()) = some draft at drafted
    rw [dealt_own]
    have written {write : FrameBuilder.Call} (named : call.write? = some write) :
        ∃ earlier calls, dealtWith log generation ++ [⟨generation, .report call, .ok ()⟩] =
          earlier ++ acceptedBy generation
            (.beginSpace draft.event draft.space draft.tileCount :: calls) ∧
          calls.map ReportCall.write? = draft.calls.map some := by
      rw [draft_after_write named] at drafted
      obtain ⟨shorter, was, rfl⟩ := Option.map_eq_some_iff.mp drafted
      obtain ⟨earlier, calls, dealt, writes⟩ := accounted.begun shorter was
      refine ⟨earlier, calls ++ [call], ?_, ?_⟩
      · rw [dealt, List.append_assoc]
        simp [acceptedBy, Draft.add]
      · simp [Draft.add, writes, named]
    cases call with
    | beginSpace event space tileCount =>
      cases drafted
      exact ⟨dealtWith log generation, [], rfl, rfl⟩
    | tileNames | streamData | control | putControl | summary | spaceInfo => exact written rfl
    | endSpace space => cases drafted
    | safepoint event =>
      -- A safepoint is accepted only between two reports.
      have idle : journal.draft = none := by
        rcases Recorder.safepoint_cases recorder event
            fun idle => tracks.idle (tracks_closed tracks idle) with ⟨_, _, refused⟩ | ⟨idle, _⟩
        · change (recorder.safepoint event).1 = .ok () at accepts
          rw [refused] at accepts
          cases accepts
        · exact tracks_closed tracks idle
      rw [idle] at drafted
      cases drafted
    | startTimer now => exact absurd rfl (handsOn now).1
    | stopTimer now => exact absurd rfl (handsOn now).2

theorem discarded_accounted (tracks : Tracks view before limit recorder journal)
    (accounted : Accounted log generation journal) (call : ReportCall) {error : Error}
    (refuses : (recorder.perform call).1 = .error error) (fault : error.isTransport = false) :
    Accounted (log ++ [⟨generation, .report call, .error error⟩]) generation
      ((journal.after recorder (.report call)).after (recorder.perform call).2 .discard) := by
  have told := record_told tracks accounted call
  have answered : (recorder.act (.report call)).1 = .error error := refuses
  rw [refuses] at told
  refine ⟨?_, ?_, ?_⟩
  · rw [after_outcome (.report call) answered]
    change (journal.transportFailed || error.isTransport || false) = false
    rw [accounted.fine, fault]
    rfl
  · intro draft drafted
    cases drafted
  · intro parcel member
    rcases List.mem_append.mp member with sent | now
    · exact told parcel sent
    · cases now

def Greeted (view : SinkView σ) (info : ServerInfo) (limit : Nat) (recorder : Recorder σ)
    (journal : Journal) : Prop :=
  ∃ hello, Wire.encode (.hello info) = .ok hello ∧ FitsFrame Recorder.defaultFrameLimit hello ∧
    Tracks view (frameOf hello) limit recorder journal

def Receives (view : SinkView σ) (info : ServerInfo) (limit : Nat) (log : List Dealing)
    (client : Client σ) : Prop :=
  ∃ (hello : Bytes) (body last : List Parcel) (payloads : List Bytes),
    Wire.encode (.hello info) = .ok hello ∧
    Wire.decode hello = .ok [(Command.hello info).onWire] ∧
    FitsFrame Recorder.defaultFrameLimit hello ∧
    (∀ payload ∈ payloads, FitsFrame limit payload) ∧
    payloads.map Wire.decode =
      (body ++ last).map (fun parcel => .ok (parcel.commands.map Command.onWire)) ∧
    (∀ parcel ∈ body, parcel ≠ .shutdown) ∧ (last = [] ∨ last = [.shutdown]) ∧
    (∀ parcel ∈ body ++ last, parcel.WellFormed ∧ Told log client.generation parcel) ∧
    view.taken client.recorder.sink <+: frameOf hello ++ payloads.flatMap frameOf ∧
    ((∀ dealing ∈ log, dealing.generation = client.generation →
        failedInTransport dealing.outcome = false) →
      view.taken client.recorder.sink = frameOf hello ++ payloads.flatMap frameOf)

variable {info : ServerInfo} {client : Client σ}

theorem receives_later (receives : Receives view info limit log client) (more : List Dealing) :
    Receives view info limit (log ++ more) client := by
  obtain ⟨hello, body, last, payloads, encoded, reads, fits, fit, decoded, others, ends, told, front,
    whole⟩ := receives
  refine ⟨hello, body, last, payloads, encoded, reads, fits, fit, decoded, others, ends, ?_, front, ?_⟩
  · intro parcel member
    exact ⟨(told parcel member).1, told_later (told parcel member).2 more⟩
  · intro fine
    exact whole fun dealing member => fine dealing (List.mem_append_left more member)

theorem greeted_receives (greeted : Greeted view info limit client.recorder journal)
    (body last : List Parcel) (parcels : journal.parcels = body ++ last)
    (told : ∀ parcel ∈ body, parcel ≠ .shutdown ∧ Told log client.generation parcel)
    (ends : last = [] ∨ last = [.shutdown] ∧ Told log client.generation .shutdown)
    (fails : journal.transportFailed = true → ∃ dealing ∈ log,
      dealing.generation = client.generation ∧ failedInTransport dealing.outcome = true) :
    Receives view info limit log client := by
  obtain ⟨hello, encoded, fits, tracks⟩ := greeted
  obtain ⟨payloads, written, fit, decoded, taken, part, state⟩ := tracks.sent
  have reads := Wire.decode_written [.hello info] hello (Wire.write_each_singleton encoded)
  rw [parcels] at decoded
  refine ⟨hello, body, last, payloads, encoded, reads, fits, fit, decoded,
    fun parcel member => (told parcel member).1, ends.imp id And.left, ?_, ?_, ?_⟩
  · intro parcel member
    refine ⟨tracks.formed parcel (parcels ▸ member), ?_⟩
    rcases List.mem_append.mp member with early | late
    · exact (told parcel early).2
    · rcases ends with rfl | ⟨rfl, goodbye⟩
      · cases late
      · exact List.mem_singleton.mp late ▸ goodbye
  · rw [taken]
    exact (List.prefix_append_right_inj _).mpr part
  · intro fine
    rcases state with whole | ⟨_, failed⟩
    · rw [taken, whole]
    · obtain ⟨dealing, member, own, failing⟩ := fails failed
      rw [fine dealing member own] at failing
      cases failing

theorem greeted_changes (greeted : Greeted view info limit client.recorder journal)
    (fine : journal.transportFailed = false) (change : σ → σ)
    (keeps : ∀ sink, view.valid sink →
      view.valid (change sink) ∧ view.taken (change sink) = view.taken sink) :
    Greeted view info limit (Server.mapSink change client).recorder journal := by
  obtain ⟨hello, encoded, fits, tracks⟩ := greeted
  obtain ⟨payloads, written, fit, decoded, taken, part, state⟩ := tracks.sent
  obtain ⟨usable, same⟩ := keeps client.recorder.sink tracks.usable
  refine ⟨hello, encoded, fits, { tracks with usable := usable, sent := ?_ }⟩
  refine ⟨payloads, written, fit, decoded, same.trans taken, part, .inl ?_⟩
  rcases state with whole | ⟨_, failed⟩
  · exact whole
  · rw [fine] at failed
    cases failed

def streaming (view : SinkView σ) (info : ServerInfo) (limit : Nat) (log : List Dealing) : Custody σ where
  sound sink := view.valid sink ∧ view.taken sink = []
  changes change := ∀ sink, view.valid sink →
    view.valid (change sink) ∧ view.taken (change sink) = view.taken sink
  fresh recorder := Greeted view info limit recorder .blank
  pending client := Greeted view info limit client.recorder .blank
  writing client := ∃ journal, Greeted view info limit client.recorder journal ∧
    Accounted log client.generation journal
  gone := Receives view info limit log

theorem greet_streams {server : Server σ} {sink : σ} {greeted : Recorder σ}
    (usable : view.valid sink) (nothing : view.taken sink = [])
    (done : server.greet sink = (.ok (), greeted)) :
    Greeted view server.info server.settings.frameLimit greeted .blank := by
  obtain ⟨hello, next, encoded, flushed, rfl⟩ := greet_ok done
  rcases Recorder.flush_frame_cases view { Recorder.ofSink sink with frame := ⟨hello, none⟩ } usable rfl
    with ⟨_, refused⟩ | ⟨_, _, refused⟩ | ⟨outcome, after, handed, _, fits, usableAfter, _, gave⟩
  · rw [refused] at flushed
    cases flushed
  · rw [refused] at flushed
    cases flushed
  · rw [handed] at flushed
    cases flushed
    have taken : view.taken after = frameOf hello := by
      cases gave with
      | whole _ taken =>
        rw [taken]
        change view.taken sink ++ frameOf hello = frameOf hello
        rw [nothing, List.nil_append]
      | front failed => cases failed
    refine ⟨hello, encoded, fits, ?_⟩
    rw [← taken]
    exact tracks_start view after usableAfter server.settings.frameLimit

theorem streaming_lawful (view : SinkView σ) (settings : Settings) (info : ServerInfo)
    (log : List Dealing) : (streaming view info settings.frameLimit log).Lawful settings info where
  greets server sink recorder sameSettings sameInfo sound done := by
    have greeted := greet_streams sound.1 sound.2 done
    rw [sameSettings, sameInfo] at greeted
    exact greeted
  publishes _ _ greeted := greeted
  lapses client greeted :=
    greeted_receives greeted [] [] rfl (fun _ member => (List.not_mem_nil member).elim) (.inl rfl)
      fun failed => by cases failed
  retires client := by
    rintro ⟨journal, greeted, accounted⟩
    refine greeted_receives greeted journal.parcels [] (List.append_nil _).symm accounted.told
      (.inl rfl) fun failed => ?_
    rw [accounted.fine] at failed
    cases failed
  changesPending change client keeps greeted := greeted_changes greeted rfl change keeps
  changesWriting change client keeps := by
    rintro ⟨journal, greeted, accounted⟩
    exact ⟨journal, greeted_changes greeted accounted.fine change keeps, accounted⟩

theorem greeted_after (greeted : Greeted view info limit recorder journal) (action : Recorder.Action) :
    Greeted view info limit (recorder.act action).2 (journal.after recorder action) := by
  obtain ⟨hello, encoded, fits, tracks⟩ := greeted
  exact ⟨hello, encoded, fits, tracks_after tracks action⟩

theorem logged_holds {settings : Settings} {server : Server σ} {taken : Option (Client σ)}
    (holds : (streaming view info settings.frameLimit log).Holds settings info server taken)
    (more : List Dealing) :
    Holds { streaming view info settings.frameLimit log with
      gone := Receives view info settings.frameLimit (log ++ more) } settings info server taken :=
  replaced_holds holds _ _ server.writer server.departed holds.writer
    fun client member => receives_later (holds.departed client member) more

section Moves

variable {settings : Settings} {world : World σ}

def Streams (view : SinkView σ) (settings : Settings) (info : ServerInfo) (world : World σ) : Prop :=
  (streaming view info settings.frameLimit world.log).Holds settings info world.server
    world.progress.taken

theorem tell_streams (world : World σ)
    (holds : (streaming view info settings.frameLimit world.log).Holds settings info world.server none)
    (call : ReportCall) (handsOn : ∀ now, call ≠ .startTimer now ∧ call ≠ .stopTimer now) :
    Streams view settings info (world.tell call).2 := by
  unfold Streams
  cases is : world.server.writer with
  | none =>
    simp only [World.tell, Server.withWriter, is, Option.map_none, Option.toList_none, List.append_nil]
    exact holds
  | some client =>
    obtain ⟨journal, greeted, accounted⟩ := holds.writer client is
    have after := greeted_after greeted (.report call)
    have discarded := greeted_after after .discard
    obtain ⟨hello, _, _, tracks⟩ := greeted
    have told := record_told tracks accounted call
    simp only [World.tell, is, Option.map_some, Option.toList_some]
    refine with_writer_holds (logged_holds holds _) _ (·.perform call) ?_ ?_ ?_
    · intro other recorder same answer
      cases is.symm.trans same
      have accepts : (client.recorder.perform call).1 = .ok () := congrArg Prod.fst answer
      have accounting := accepted_accounted tracks accounted call handsOn accepts
      rw [← accepts] at accounting
      change Greeted view info settings.frameLimit (client.recorder.perform call).2 _ at after
      rw [answer] at after
      exact ⟨_, after, accounting⟩
    · intro other recorder error same kind answer
      cases is.symm.trans same
      have lost : Greeted view info settings.frameLimit ({ client with recorder } : Client σ).recorder
          (journal.after client.recorder (.report call)) := by
        change Greeted view info settings.frameLimit (client.recorder.perform call).2 _ at after
        rw [answer] at after
        exact after
      refine greeted_receives lost _ [] (List.append_nil _).symm told (.inl rfl) fun _ => ?_
      refine ⟨_, List.mem_append_right _ List.mem_cons_self, rfl, ?_⟩
      rw [answer]
      exact kind
    · intro other recorder error same kind answer
      cases is.symm.trans same
      have refuses : (client.recorder.perform call).1 = .error error := congrArg Prod.fst answer
      have accounting := discarded_accounted tracks accounted call refuses kind
      rw [← refuses] at accounting
      change Greeted view info settings.frameLimit (client.recorder.perform call).2.discard _ at discarded
      rw [answer] at discarded accounting
      refine ⟨_, discarded, ?_⟩
      rw [answer]
      exact accounting

theorem goodbye_receives (greeted : Greeted view info limit client.recorder journal)
    (accounted : Accounted log client.generation journal) {more : List Dealing}
    (logged : ⟨client.generation, .shutdown, client.recorder.sendShutdown.1⟩ ∈ more) :
    Receives view info limit (log ++ more) (Server.sayGoodbye client) := by
  have after : Greeted view info limit (Server.sayGoodbye client).recorder _ := greeted_after greeted .shutdown
  have told : ∀ parcel ∈ journal.parcels, parcel ≠ .shutdown ∧
      Told (log ++ more) client.generation parcel := by
    intro parcel member
    obtain ⟨other, told⟩ := accounted.told parcel member
    exact ⟨other, told_later told more⟩
  refine greeted_receives after journal.parcels _ rfl told ?_ ?_
  · split
    · exact .inr ⟨rfl, _, List.mem_append_right log logged⟩
    · exact .inl rfl
  · intro failed
    change (journal.transportFailed || failedInTransport client.recorder.sendShutdown.1) = true at failed
    rw [accounted.fine, Bool.false_or] at failed
    exact ⟨_, List.mem_append_right log logged, rfl, failed⟩

theorem dismiss_streams (streams : Streams view settings info world) :
    Streams view settings info world.dismiss := by
  refine dismiss_holds (logged_holds streams _) _ ?_
  intro client member
  have logged : (⟨client.generation, .shutdown, client.recorder.sendShutdown.1⟩ : Dealing) ∈
      (world.server.writer.toList ++ world.server.incoming.toList).map fun client =>
        ⟨client.generation, .shutdown, client.recorder.sendShutdown.1⟩ :=
    List.mem_map_of_mem member
  rcases List.mem_append.mp member with writing | waiting
  · obtain ⟨journal, greeted, accounted⟩ := streams.writer client (Option.mem_toList.mp writing)
    exact goodbye_receives greeted accounted logged
  · exact goodbye_receives (streams.incoming client (Option.mem_toList.mp waiting))
      (blank_accounted world.log client.generation) logged

theorem call_streams (streams : Streams view settings info world) (ready : world.progress = .ready)
    (call : ReportCall) : Streams view settings info (world.call call).2 := by
  have holds := streams
  unfold Streams at holds
  rw [ready] at holds
  have move := world.call_called call
  generalize world.call call = made at move ⊢
  cases move with
  | refused opening unknown => exact streams
  | taken opening registered => exact take_holds holds
  | started now => exact aside_holds streams ⟨rfl, rfl, rfl, rfl, rfl, rfl, rfl⟩
  | stopped now =>
    refine stop_timer_holds streams now fun client length => ?_
    rintro ⟨journal, ⟨hello, encoded, fits, tracks⟩, accounted⟩
    exact ⟨journal, ⟨hello, encoded, fits, tracks_apart tracks _ rfl rfl rfl rfl⟩, accounted⟩
  | told call handsOn => exact tell_streams world holds call handsOn

theorem proceed_streams (streams : Streams view settings info world) :
    Streams view settings info world.proceed.2 := by
  have holds := streams
  unfold Streams at holds
  have move := world.proceed_proceeds
  generalize world.proceed = moved at move ⊢
  cases move with
  | rests => exact streams
  | adopts taken opening is =>
    rw [is] at holds
    have adopted := adopt_holds (streaming_lawful view settings info world.log) holds
      fun client greeted => ⟨.blank, greeted, blank_accounted world.log client.generation⟩
    cases opening <;> exact adopted
  | begins event space tileCount is =>
    rw [is] at holds
    exact tell_streams world holds _ fun _ => ⟨nofun, nofun⟩
  | hears event is =>
    rw [is] at holds
    exact holds
  | passes event is =>
    rw [is] at holds
    exact holds
  | fails event is error next told =>
    rw [is] at holds
    have after := tell_streams world holds (.safepoint event) fun _ => ⟨nofun, nofun⟩
    rw [told] at after
    exact after
  | tells event is next told =>
    rw [is] at holds
    have after := tell_streams world holds (.safepoint event) fun _ => ⟨nofun, nofun⟩
    rw [told] at after
    exact { after with taken := nofun }
  | resumes attachment is lets =>
    rw [is] at holds
    exact aside_holds holds ⟨rfl, rfl, rfl, rfl, rfl, rfl, rfl⟩

theorem step_streams (streams : Streams view settings info world) (step : Step σ)
    (fair : (streaming view info settings.frameLimit []).FairStep step) :
    Streams view settings info (world.step step).2 := by
  have lawful := streaming_lawful view settings info world.log
  cases step with
  | call call =>
    rw [World.step]
    split
    · rename_i ready
      exact call_streams streams (Progress.ready_of_is_ready ready) call
    · exact streams
  | proceed => exact proceed_streams streams
  | start machine =>
    rw [World.step]
    split
    · exact start_holds lawful streams machine fair
    · exact streams
  | closing move =>
    rw [World.step]
    split
    · cases move with
      | dismiss => exact dismiss_streams streams
      | raise => exact shut_holds streams .raise (by simp)
      | close => exact shut_holds streams .close (by simp)
      | wake => exact shut_holds streams .wake (by simp)
      | join => exact shut_holds streams .join (by simp)
    · exact streams
  | happens happening =>
    have holds := happen_holds lawful streams happening fair
    cases happening <;> exact holds

theorem run_streams (streams : Streams view settings info world) (steps : List (Step σ))
    (fair : ∀ step ∈ steps, (streaming view info settings.frameLimit []).FairStep step) :
    Streams view settings info (world.run steps) := by
  induction steps generalizing world with
  | nil => exact streams
  | cons step steps ih =>
    exact ih (step_streams streams step (fair step List.mem_cons_self))
      fun later member => fair later (List.mem_cons_of_mem step member)

theorem clients_receive (streams : Streams view settings info world) :
    ∀ client ∈ world.clients, Receives view info settings.frameLimit world.log client := by
  have lawful := streaming_lawful view settings info world.log
  intro client member
  rcases List.mem_append.mp member with active | gone
  · rcases List.mem_append.mp active with waits | writes
    · refine lawful.lapses client ?_
      rcases List.mem_append.mp waits with taken | incoming
      · exact streams.taken client (Option.mem_toList.mp taken)
      · exact streams.incoming client (Option.mem_toList.mp incoming)
    · exact lawful.retires client (streams.writer client (Option.mem_toList.mp writes))
  · exact streams.departed client gone

end Moves

-- A client comes with a connection on which nothing was sent, and cannot take back what was.
def Connects (view : SinkView σ) : Step σ → Prop
  | .start machine => ∀ sink, machine.first = .ok sink → view.valid sink ∧ view.taken sink = []
  | .happens (.arrive (.client sink)) => view.valid sink ∧ view.taken sink = []
  | .happens (.change _ change) =>
    ∀ sink, view.valid sink → view.valid (change sink) ∧ view.taken (change sink) = view.taken sink
  | _ => True

theorem connects_fair {step : Step σ} (connects : Connects view step) :
    (streaming view info limit []).FairStep step := by
  cases step with
  | happens happening =>
    cases happening with
    | arrive arrival => cases arrival <;> exact connects
    | change generation change => exact connects
    | _ => trivial
  | start machine => exact connects
  | _ => trivial

omit [Sink σ] in
theorem fresh_numbered {settings : Settings} {events : List String} {server : Server σ}
    (fresh : server.Fresh settings events) : Numbered (World.ofServer server) := by
  have nobody : (World.ofServer server).clients = [] := by
    change server.clients none = []
    rw [Server.clients, fresh.incoming, fresh.writer, fresh.departed]
    rfl
  refine ⟨?_, ?_, fun dealing member => (List.not_mem_nil member).elim⟩
  · rw [nobody]
    exact List.nodup_nil
  · rw [nobody]
    exact fun number member => (List.not_mem_nil member).elim

theorem clients_receive_clean_streams (view : SinkView σ) (settings : Settings) (events : List String)
    (spaces : List SpaceDescriptor) (made server : Server σ)
    {build : Build} (created : Server.make settings events build = .ok made)
    (registered : Channel.addSpaces made spaces = .ok server) (steps : List (Step σ))
    (connects : ∀ step ∈ steps, Connects view step) :
    let world := (World.ofServer server).run steps
    (∀ client ∈ world.clients, Receives view server.info settings.frameLimit world.log client) ∧
    (world.clients.map (·.generation)).Nodup ∧
    (∀ dealing ∈ world.log, dealing.Ends →
      ∃ client ∈ world.server.departed, client.generation = dealing.generation) ∧
    ∀ more : List (Step σ),
      (∃ leaving, (world.run more).server.departed = leaving ++ world.server.departed) ∧
      ∃ dealings, (world.run more).log = world.log ++ dealings ∧
        ∀ dealing ∈ dealings, ∀ client ∈ world.server.departed,
          client.generation ≠ dealing.generation := by
  intro world
  have ready := Server.add_spaces_fresh (Server.make_fresh created).1 registered
  have begun : Streams view settings server.info (World.ofServer server) := fresh_holds _ ready
  have streams := run_streams begun steps fun step member => connects_fair (connects step member)
  have lawful := streaming_lawful view settings server.info world.log
  have numbered := run_numbered (fresh_numbered ready) steps
  refine ⟨?_, numbered.distinct, numbered.ended, run_lasts numbered⟩
  intro client member
  rcases List.mem_append.mp member with active | gone
  · rcases List.mem_append.mp active with waits | writes
    · refine lawful.lapses client ?_
      rcases List.mem_append.mp waits with taken | incoming
      · exact streams.taken client (Option.mem_toList.mp taken)
      · exact streams.incoming client (Option.mem_toList.mp incoming)
    · exact lawful.retires client (streams.writer client (Option.mem_toList.mp writes))
  · exact streams.departed client gone

-- A client receives a report but nothing of the next one, which is misused, and fails; another one waits
-- when the server says goodbye.
theorem two_clients_received :
    let attaches : List (Step MemorySink) :=
      .happens (.arrive (.client .unlimited)) :: List.replicate 5 (.happens .accept)
    let steps : List (Step MemorySink) := .start { bind := .ok, first := .error .brokenPipe } :: attaches ++
      [.call (.beginSpace ⟨0⟩ ⟨2⟩ 1), .proceed, .proceed, .call (.spaceInfo ⟨2⟩ "x"),
        .call (.endSpace ⟨2⟩), .call (.beginSpace ⟨0⟩ ⟨2⟩ 1), .proceed, .proceed,
        .call (.endSpace ⟨3⟩), .happens (.change 1 .close), .call (.safepoint ⟨0⟩), .proceed,
        .proceed, .proceed, .proceed] ++ attaches ++ [.closing .dismiss]
    (∀ step ∈ steps, Connects MemorySink.anyView step) ∧
    ∃ made : Server MemorySink, Server.make { frameLimit := 64 } ["gc"] = .ok made ∧
      let world := (World.ofServer made).run steps
      world.clients.map (fun client => (client.generation, client.recorder.sink.taken.drop 29)) =
        [(2, [0, 0, 0, 1, 11]), (1, [0, 0, 0, 15, 3, 2, 0, 0, 0, 0, 0, 1, 8, 2, 0, 1, 120, 9, 2])] ∧
      ∀ client ∈ world.clients, Receives MemorySink.anyView made.info 64 world.log client := by
  intro attaches steps
  have connects : ∀ step ∈ steps, Connects MemorySink.anyView step := by
    simp [steps, attaches, Connects, MemorySink.anyView, MemorySink.view, MemorySink.unlimited,
      MemorySink.close]
  have taken : (match Server.make { frameLimit := 64 } ["gc"] with
      | .ok made =>
        let world := (World.ofServer made).run steps
        decide (world.clients.map
            (fun client => (client.generation, client.recorder.sink.taken.drop 29)) =
          [(2, [0, 0, 0, 1, 11]), (1, [0, 0, 0, 15, 3, 2, 0, 0, 0, 0, 0, 1, 8, 2, 0, 1, 120, 9, 2])])
      | .error _ => false) = true := by
    simp only [steps, attaches]
    decide +kernel
  refine ⟨connects, ?_⟩
  cases created : Server.make (σ := MemorySink) { frameLimit := 64 } ["gc"] with
  | error error =>
    rw [created] at taken
    cases taken
  | ok made =>
    rw [created] at taken
    have registered : Channel.addSpaces made [] = .ok made := rfl
    exact ⟨made, rfl, of_decide_eq_true taken, (clients_receive_clean_streams MemorySink.anyView
      { frameLimit := 64 } ["gc"] [] made made created registered steps connects).1⟩

end HeapScope
