import HeapScope.Proofs.Server.Keeping
import HeapScope.Proofs.Server.Limits
import HeapScope.Proofs.Server.Turns
import HeapScope.Proofs.Wire.Fitting
import Mathlib.Data.List.Perm.Subperm

namespace HeapScope

variable {σ : Type}

theorem add_space_cases (server : Server σ) (space : SpaceDescriptor) (unstarted : server.address = none) :
    (space.id ∉ server.info.spaces.map (·.id) ∧ server.addSpace space = .ok (server.withSpace space)) ∨
    (space.id ∈ server.info.spaces.map (·.id) ∧
      server.addSpace space = .error (.duplicateSpace space.id)) := by
  by_cases known : server.info.spaces.any (·.id = space.id) = true
  · exact .inr ⟨by simpa using known, by simp [Server.addSpace, unstarted, known]⟩
  · exact .inl ⟨by simpa using known, by simp [Server.addSpace, unstarted, known]⟩

theorem add_spaces_iff [Sink σ] {made : Server σ} (unstarted : made.address = none)
    (distinct : (made.info.spaces.map (·.id)).Nodup) (spaces : List SpaceDescriptor) (server : Server σ) :
    Channel.addSpaces made spaces = .ok server ↔
      ((made.info.spaces ++ spaces).map (·.id)).Nodup ∧
        server = { made with info := { made.info with spaces := made.info.spaces ++ spaces } } := by
  unfold Channel.addSpaces
  induction spaces generalizing made with
  | nil => simp [distinct, pure, Except.pure, eq_comm]
  | cons space spaces ih =>
    rw [List.foldlM_cons, List.append_cons]
    rcases add_space_cases made space unstarted with ⟨new, added⟩ | ⟨known, refused⟩
    · have apart : ((made.withSpace space).info.spaces.map (·.id)).Nodup := by
        simpa [Server.withSpace, List.nodup_append, distinct] using new
      rw [added]
      exact @ih (made.withSpace space) unstarted apart
    · rw [refused]
      have twice : ¬((made.info.spaces ++ [space]).map (·.id)).Nodup := by
        simpa [List.nodup_append, distinct] using known
      constructor
      · intro accepted
        cases accepted
      · rintro ⟨apart, _⟩
        rw [List.map_append] at apart
        exact absurd (List.nodup_append.mp apart).1 twice

theorem make_blank {settings : Settings} {events : List String} {build : Build} {made : Server σ}
    (created : Server.make settings events build = .ok made) :
    made.address = none ∧
      made.info = ⟨settings.serverName, build.version, settings.generalInfo, events, []⟩ := by
  unfold Server.make at created
  cases valid : settings.validate with
  | error error => simp [valid, Except.map] at created
  | ok done =>
    rw [valid] at created
    cases created
    exact ⟨rfl, rfl⟩

theorem distinct_spaces_few {spaces : List SpaceDescriptor} (distinct : (spaces.map (·.id)).Nodup) :
    spaces.length ≤ 256 := by
  let numbers := spaces.map (·.id.number.toNat)
  have apart : numbers.Nodup := by
    unfold List.Nodup at distinct ⊢
    rw [List.pairwise_map] at distinct ⊢
    refine distinct.imp fun {left right} apart equal => apart ?_
    exact congrArg SpaceId.mk (UInt8.toNat_inj.mp equal)
  have bytes : numbers ⊆ List.range 256 := by
    intro number member
    obtain ⟨space, _, rfl⟩ := List.mem_map.mp member
    exact List.mem_range.mpr space.id.number.toNat_lt
  simpa [numbers] using (apart.subperm bytes).length_le

section Greeting

variable [Sink σ] {server : Server σ}

theorem flush_frame_fails (recorder : Recorder σ) (closed : recorder.frame.openControl = none)
    {error : Error} (failed : recorder.flushFrame.1 = .error error) :
    error.isTransport = true ∨ refusedAsLong (.error error) = true := by
  obtain ⟨sink, ⟨payload, openControl⟩, current, named, namesInFrame, frameLimit, counts,
    compensation, timer⟩ := recorder
  change openControl = none at closed
  subst closed
  rcases FrameBuilder.finish_cases payload with ⟨_, refused⟩ | ⟨_, finished⟩
  · simp only [Recorder.flushFrame, refused] at failed
    cases failed
    exact .inr rfl
  · simp only [Recorder.flushFrame, finished] at failed
    split at failed
    · cases failed
      exact .inr rfl
    split at failed
    · cases failed
      exact .inl rfl
    split at failed
    · cases failed
      exact .inl rfl
    · cases failed

theorem Server.attach_answers (server : Server σ) (sink : σ) (reader : Except Transport Unit) :
    (server.attach sink reader).1 = (server.greet sink).1 ∨
    (server.greet sink).1 = .ok () ∧ ∃ cause, (server.attach sink reader).1 = .error (.transport cause) := by
  unfold Server.attach
  split
  · rename_i greeted
    rw [greeted]
    exact .inl rfl
  · rename_i greeted
    rw [greeted]
    cases reader with
    | ok done => exact .inl rfl
    | error cause => exact .inr ⟨rfl, cause, rfl⟩

theorem attach_refused_long (server : Server σ) (sink : σ) (reader : Except Transport Unit) :
    refusedAsLong (server.attach sink reader).1 = refusedAsLong (server.greet sink).1 := by
  rcases server.attach_answers sink reader with same | ⟨greeted, cause, failed⟩
  · rw [same]
  · rw [greeted, failed]
    rfl

theorem greet_refused {error : Error} (refused : Wire.encode (.hello server.info) = .error error)
    (sink : σ) : ∃ recorder, server.greet sink = (.error error, recorder) := by
  have failed : (Recorder.ofSink sink).frame.append (.hello server.info) = .error error := by
    simp only [Recorder.ofSink, FrameBuilder.empty, FrameBuilder.append, FrameBuilder.checkFilled, refused]
    rfl
  simp only [Server.greet, Recorder.withHello, failed, Recorder.write]
  exact ⟨_, rfl⟩

theorem attach_refused {error : Error} (refused : Wire.encode (.hello server.info) = .error error)
    (sink : σ) (reader : Except Transport Unit) : server.attach sink reader = (.error error, server) := by
  obtain ⟨recorder, greets⟩ := greet_refused refused sink
  rw [Server.attach, greets]

end Greeting

open Custody

def Announced (info : ServerInfo) : Prop := ∃ hello, Wire.encode (.hello info) = .ok hello

def announcing (info : ServerInfo) : Custody σ where
  sound _ := True
  changes _ := True
  fresh _ := Announced info
  pending _ := Announced info
  writing _ := Announced info
  gone _ := Announced info

variable {settings : Settings} {info : ServerInfo} {world : World σ}

theorem announcing_keeps [Sink σ] (settings : Settings) (info : ServerInfo) :
    (announcing (σ := σ) info).Keeps (fun _ => True) settings info where
  lawful := {
    greets := by
      intro server sink recorder _ same _ greeted
      obtain ⟨hello, _, encoded, _⟩ := greet_ok greeted
      exact ⟨hello, same ▸ encoded⟩
    publishes := fun _ _ announced => announced
    lapses := fun _ announced => announced
    retires := fun _ announced => announced
    changesPending := fun _ _ _ announced => announced
    changesWriting := fun _ _ _ announced => announced }
  fair := anyone_fair (fun _ => trivial) fun _ => trivial
  adopts _ announced := announced
  accepts _ _ _ _ announced _ := announced
  discards _ _ announced := announced
  charges _ _ announced := announced
  leaves _ _ announced := announced

theorem unannounced_clients (kept : (announcing info).Kept (fun _ => True) settings info world)
    (unannounced : ¬Announced info) : world.clients = [] := by
  apply List.eq_nil_iff_forall_not_mem.mpr
  intro client member
  have holds := kept.holds
  simp only [World.clients, Server.clients, List.mem_append, Option.mem_toList] at member
  apply unannounced
  rcases member with ((taken | waits) | writes) | gone
  · exact holds.taken client taken
  · exact holds.incoming client waits
  · exact holds.writer client writes
  · exact holds.departed client gone

variable [Sink σ]

theorem run_unattached (unannounced : ¬Announced info)
    (kept : (announcing info).Kept (fun _ => True) settings info world)
    (unattached : world.server.attachment.connected = false) (steps : List (Step σ)) :
    (world.run steps).server.attachment.connected = false := by
  induction steps generalizing world with
  | nil => exact unattached
  | cons step steps ih =>
    have after := step_kept (announcing_keeps settings info) kept step fun _ _ _ => trivial
    refine ih after ?_
    rcases World.turns_attached (world.step_turns step) with
      ⟨recorder, _, _, waits⟩ | ⟨_, _, withdrawn⟩ | ⟨_, before⟩
    · exact absurd (after.holds.incoming _ waits) unannounced
    · exact congrArg Attachment.connected (withdrawn.trans (Attachment.attach_detach _))
    · cases connected : (world.step step).2.server.attachment.connected with
      | false => rfl
      | true => exact (unattached.symm.trans (before connected)).symm

theorem announced_if_fits (settings : Settings) (events : List String) (spaces : List SpaceDescriptor)
    (made server : Server σ) {build : Build} (created : Server.make settings events build = .ok made)
    (registered : Channel.addSpaces made spaces = .ok server) :
    server.info = ⟨settings.serverName, build.version, settings.generalInfo, events, spaces⟩ ∧
    spaces.length ≤ 256 ∧
    (server.info.fits = true → ∃ hello, Wire.encode (.hello server.info) = .ok hello ∧
      ∀ (steps : List (Step σ)) (sink : σ) (reader : Except Transport Unit),
        let attached := (((World.ofServer server).run steps).server.attach sink reader).1
        (refusedAsLong attached = true ↔ Recorder.defaultFrameLimit < hello.length) ∧
        ∀ error, attached = .error error →
          error.isTransport = true ∨ refusedAsLong (.error error) = true) ∧
    (server.info.fits = false → ∃ error, Wire.encode (.hello server.info) = .error error ∧
      error.isOversize = true ∧
      ∀ steps : List (Step σ),
        let world := (World.ofServer server).run steps
        world.server.hasClient = false ∧ world.clients = [] ∧
        ∀ sink reader, world.server.attach sink reader = (.error error, world.server)) := by
  have fresh := Server.add_spaces_fresh (Server.make_fresh created).1 registered
  have begun : (announcing server.info).Kept (fun _ => True) settings server.info (World.ofServer server) :=
    ⟨Custody.fresh_holds _ fresh, nofun⟩
  have kept (steps : List (Step σ)) := run_kept (announcing_keeps settings server.info) begun steps
    fun _ _ _ => trivial
  have writes := Wire.hello_writes server.info
  obtain ⟨unbound, blank⟩ := make_blank created
  obtain ⟨distinct, is⟩ := (add_spaces_iff unbound (by simp [blank]) spaces server).mp registered
  have registers : server.info =
      ⟨settings.serverName, build.version, settings.generalInfo, events, spaces⟩ := by
    rw [is, blank]
    rfl
  refine ⟨registers, ?_, fun fits => ?_, fun misfits => ?_⟩
  · simpa [blank] using distinct_spaces_few distinct
  · rw [fits] at writes
    obtain ⟨hello, encoded⟩ := Wire.writes_fitting writes
    refine ⟨hello, encoded, fun steps sink reader => ?_⟩
    have same := (kept steps).holds.info
    rw [← same] at encoded
    dsimp only
    rw [attach_refused_long]
    refine ⟨greet_refused_long encoded sink, fun error failed => ?_⟩
    rcases Server.attach_answers _ sink reader with greeted | ⟨_, cause, lost⟩
    · exact flush_frame_fails _ rfl ((greet_flushes encoded sink).symm.trans (greeted.symm.trans failed))
    · cases lost.symm.trans failed
      exact .inl rfl
  · rw [misfits] at writes
    obtain ⟨error, refused, oversize⟩ := Wire.writes_oversize writes
    have unannounced : ¬Announced server.info := by
      rintro ⟨hello, encoded⟩
      cases refused.symm.trans encoded
    have unattached : server.attachment.connected = false := by rw [fresh.attachment]; rfl
    refine ⟨error, refused, oversize, fun steps => ?_⟩
    refine ⟨run_unattached unannounced begun unattached steps, ?_, fun sink reader => ?_⟩
    · exact unannounced_clients (kept steps) unannounced
    · rw [← (kept steps).holds.info] at refused
      exact attach_refused refused sink reader

theorem two_spaces_announced :
    let space (number : UInt8) : SpaceDescriptor :=
      ⟨⟨number⟩, "Main", "driver", "title", "blocks", 4, "unused", true, [.ofKind ⟨0⟩ "Used" .int]⟩
    let steps : List (Step MemorySink) := [.start { bind := .ok, first := .error .brokenPipe }]
    ∃ made server : Server MemorySink, Server.make {} ["gc"] = .ok made ∧
      Channel.addSpaces made [space 0, space 255] = .ok server ∧ server.info.fits = true ∧
      ∃ hello, Wire.encode (.hello server.info) = .ok hello ∧ hello.length = 183 ∧
        refusedAsLong (((World.ofServer server).run steps).server.attach .unlimited (.ok ())).1 = false := by
  intro space steps
  have registers : (Server.make (σ := MemorySink) {} ["gc"]).toOption.any (fun made =>
      (Channel.addSpaces made [space 0, space 255]).toOption.any (fun server =>
        decide (server.info.fits = true ∧
          (Wire.encode (.hello server.info)).toOption.any (·.length = 183) = true))) = true := by
    simp only [space]
    decide +kernel
  obtain ⟨made, created, added⟩ := Wire.except_any_ok registers
  obtain ⟨server, registered, passes⟩ := Wire.except_any_ok added
  obtain ⟨fits, encodes⟩ := of_decide_eq_true passes
  obtain ⟨written, is, long⟩ := Wire.except_any_ok encodes
  have length : written.length = 183 := of_decide_eq_true long
  obtain ⟨_, _, announces, _⟩ :=
    announced_if_fits {} ["gc"] [space 0, space 255] made server created registered
  obtain ⟨hello, encoded, greets⟩ := announces fits
  obtain rfl : written = hello := Except.ok.inj (is.symm.trans encoded)
  refine ⟨made, server, created, registered, fits, written, encoded, length, ?_⟩
  have short : ¬Recorder.defaultFrameLimit < written.length := by
    rw [length]
    decide
  exact Bool.eq_false_iff.mpr fun refused => short ((greets steps .unlimited (.ok ())).1.mp refused)

-- All the numbers that there are for spaces can be registered, which is one more than can be announced.
theorem all_spaces_unannounced :
    let space (number : Nat) : SpaceDescriptor :=
      ⟨⟨UInt8.ofNat number⟩, "Main", "driver", "title", "blocks", 4, "unused", true, []⟩
    let spaces := (List.range 256).map space
    ∃ made server : Server MemorySink, Server.make {} ["gc"] = .ok made ∧
      Channel.addSpaces made spaces = .ok server ∧
      Wire.encode (.hello server.info) = .error (.tooManyItems "spaces" 256) ∧
      ∀ sink reader, server.attach sink reader = (.error (.tooManyItems "spaces" 256), server) := by
  intro space spaces
  have makes : (Server.make (σ := MemorySink) {} ["gc"]).toOption.any (fun _ => true) = true := by
    decide +kernel
  obtain ⟨made, created, _⟩ := Wire.except_any_ok makes
  obtain ⟨unbound, blank⟩ := make_blank created
  have distinct : (spaces.map (·.id)).Nodup := by
    simp only [spaces, List.map_map, List.Nodup, List.pairwise_map]
    refine List.Pairwise.imp_of_mem ?_ List.pairwise_lt_range
    intro left right leftSmall rightSmall less equal
    have same := congrArg (fun id => id.number.toNat) equal
    simp only [List.mem_range] at leftSmall rightSmall
    simp [space, UInt8.toNat_ofNat', Nat.mod_eq_of_lt leftSmall, Nat.mod_eq_of_lt rightSmall] at same
    omega
  have registered := (add_spaces_iff unbound (by simp [blank]) spaces _).mpr
    ⟨by simpa [blank] using distinct, rfl⟩
  have refused : Wire.encode (.hello { made.info with spaces := made.info.spaces ++ spaces }) =
      .error (.tooManyItems "spaces" 256) := by
    apply Wire.except_error_of_failure
    rw [blank]
    decide +kernel
  exact ⟨made, _, created, registered, refused, attach_refused refused⟩

end HeapScope
