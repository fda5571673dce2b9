import HeapScope.Proofs.Server.Streams

/- How long the frames are that a client of a server is sent. The limit of the settings is given to the
   recorder of a client behind its greeting, which has been closed by then: the greeting is held only
   against the limit that a recorder starts with, and everything else against that of the settings. -/
namespace HeapScope

def refusedAsLong : Except Error Unit → Bool
  | .error (.frameTooLarge _ _) => true
  | .error (.tooManyItems _ _) => true
  | _ => false

variable {σ : Type} [Sink σ]

theorem flush_frame_long (recorder : Recorder σ) (closed : recorder.frame.openControl = none)
    (numbered : recorder.frameLimit < 2 ^ 32) :
    refusedAsLong recorder.flushFrame.1 = true ↔ recorder.frameLimit < recorder.frame.payload.length := by
  obtain ⟨sink, ⟨payload, openControl⟩, current, named, namesInFrame, frameLimit, counts,
    compensation, timer⟩ := recorder
  change openControl = none at closed
  subst closed
  change frameLimit < 2 ^ 32 at numbered
  change _ ↔ frameLimit < payload.length
  rcases FrameBuilder.finish_cases payload with ⟨large, refused⟩ | ⟨_, finished⟩
  · simp only [Recorder.flushFrame, refused, refusedAsLong, true_iff]
    omega
  have length : (frameOf payload).length - FrameBuilder.headerLength = payload.length := by
    rw [frame_of_length, FrameBuilder.headerLength]
    omega
  by_cases long : frameLimit < payload.length
  · simp only [Recorder.flushFrame, finished, length, long, if_true, refusedAsLong]
  · simp only [Recorder.flushFrame, finished, length, long, if_false, iff_false]
    -- What is left of it is the connection, which may fail.
    split
    · simp [refusedAsLong]
    · split <;> simp [refusedAsLong]

theorem greet_flushes {server : Server σ} {hello : Bytes}
    (encoded : Wire.encode (.hello server.info) = .ok hello) (sink : σ) :
    (server.greet sink).1 =
      (Recorder.flushFrame { Recorder.ofSink sink with frame := ⟨hello, none⟩ }).1 := by
  have appended : (Recorder.ofSink sink).frame.append (.hello server.info) = .ok ⟨hello, none⟩ :=
    FrameBuilder.append_closed [] hello _ encoded
  simp only [Server.greet, Recorder.withHello, appended, Recorder.write]

theorem greet_refused_long {server : Server σ} {hello : Bytes}
    (encoded : Wire.encode (.hello server.info) = .ok hello) (sink : σ) :
    refusedAsLong (server.greet sink).1 = true ↔ Recorder.defaultFrameLimit < hello.length := by
  rw [greet_flushes encoded]
  have numbered : Recorder.defaultFrameLimit < 2 ^ 32 := by decide
  exact flush_frame_long _ rfl numbered

theorem greeting_refused (limit : Nat) (hello taken : Bytes) (payloads : List Bytes)
    (numbered : hello.length < 2 ^ 32) (fit : ∀ payload ∈ payloads, FitsFrame limit payload)
    (front : taken <+: frameOf hello ++ payloads.flatMap frameOf) :
    (∃ result ∈ FrameSplitter.drain ⟨limit, taken⟩, FrameSplitter.isRefusal result = true) ↔
      limit < hello.length ∧ 4 ≤ taken.length := by
  by_cases long : limit < hello.length
  · by_cases there : 4 ≤ taken.length
    · have whole := Bytes.big_endian_length 4 hello.length
      have announced := Bytes.number_big_endian_of_lt 4 hello.length numbered
      obtain ⟨rest, rfl⟩ : Bytes.bigEndian 4 hello.length <+: taken := by
        refine List.prefix_of_prefix_length_le ?_ front (whole ▸ there)
        rw [frameOf, List.append_assoc]
        exact List.prefix_append _ _
      rw [FrameSplitter.drain_refuses limit _ rest whole (announced.symm ▸ long)]
      exact ⟨fun _ => ⟨long, there⟩, fun _ => ⟨_, List.mem_cons_self, rfl⟩⟩
    · have waits := FrameSplitter.next_waits ⟨limit, taken⟩ (Nat.not_le.mp there)
      rw [FrameSplitter.drain_waits _ (congrArg Prod.fst waits)]
      simp [there]
  · have fits : ∀ payload ∈ hello :: payloads, FitsFrame limit payload := by
      intro payload member
      rcases List.mem_cons.mp member with rfl | member
      · exact ⟨Nat.not_lt.mp long, numbered⟩
      · exact fit payload member
    have unrefused := FrameSplitter.drain_unrefused limit (hello :: payloads) taken fits front
    simp only [long, false_and, iff_false]
    rintro ⟨result, member, refused⟩
    rw [unrefused result member] at refused
    cases refused

theorem frames_fit_behind_greeting (view : SinkView σ) (settings : Settings) (events : List String)
    (spaces : List SpaceDescriptor) (made server : Server σ)
    {build : Build} (created : Server.make settings events build = .ok made)
    (registered : Channel.addSpaces made spaces = .ok server) (steps : List (Step σ))
    (connects : ∀ step ∈ steps, Connects view step) :
    let world := (World.ofServer server).run steps
    (∀ client ∈ world.clients, ∃ (hello : Bytes) (payloads : List Bytes),
      Wire.encode (.hello server.info) = .ok hello ∧ hello.length ≤ Recorder.defaultFrameLimit ∧
      (∀ payload ∈ payloads, payload.length ≤ settings.frameLimit) ∧
      view.taken client.recorder.sink <+: frameOf hello ++ payloads.flatMap frameOf ∧
      ((∃ result ∈ ((FrameSplitter.ofLimit settings.frameLimit).feed
            (view.taken client.recorder.sink)).drain, FrameSplitter.isRefusal result = true) ↔
        settings.frameLimit < hello.length ∧ 4 ≤ (view.taken client.recorder.sink).length)) ∧
    ∀ (sink : σ) (hello : Bytes), Wire.encode (.hello server.info) = .ok hello →
      (refusedAsLong (world.server.greet sink).1 = true ↔ Recorder.defaultFrameLimit < hello.length) := by
  intro world
  have ready := Server.add_spaces_fresh (Server.make_fresh created).1 registered
  have begun : Streams view settings server.info (World.ofServer server) := Custody.fresh_holds _ ready
  have streams := run_streams begun steps fun step member => connects_fair (connects step member)
  refine ⟨fun client member => ?_, fun sink hello encoded => ?_⟩
  · obtain ⟨hello, body, last, payloads, encoded, _, fits, fit, _, _, _, _, front, _⟩ :=
      clients_receive streams client member
    exact ⟨hello, payloads, encoded, fits.1, fun payload member => (fit payload member).1, front,
      greeting_refused settings.frameLimit hello _ payloads fits.2 fit front⟩
  · exact greet_refused_long (streams.info ▸ encoded) sink

theorem short_greeting_fits :
    let attaches : List (Step MemorySink) := .start { bind := .ok, first := .error .brokenPipe } ::
      .happens (.arrive (.client .unlimited)) :: List.replicate 5 (.happens .accept)
    let told : List (Step MemorySink) := [.call (.safepoint ⟨0⟩), .proceed, .proceed, .proceed, .proceed,
      .call (.beginSpace ⟨0⟩ ⟨2⟩ 1), .proceed, .proceed, .call (.endSpace ⟨2⟩)]
    let steps := attaches ++ told
    (∀ step ∈ steps, Connects MemorySink.anyView step) ∧
    ∃ made : Server MemorySink, Server.make { frameLimit := 64 } ["gc"] = .ok made ∧
      let world := (World.ofServer made).run steps
      world.clients.map (fun client => client.recorder.sink.taken.length) = [62] ∧
      ∀ client ∈ world.clients, ∀ result ∈
        ((FrameSplitter.ofLimit 64).feed client.recorder.sink.taken).drain,
          FrameSplitter.isRefusal result = false := by
  intro attaches told steps
  have connects : ∀ step ∈ steps, Connects MemorySink.anyView step := by
    simp [steps, attaches, told, Connects, MemorySink.anyView, MemorySink.view, MemorySink.unlimited]
  have short : (Server.make (σ := MemorySink) { frameLimit := 64 } ["gc"]).toOption.any (fun made =>
      let world := (World.ofServer made).run steps
      decide (world.clients.map (fun client => client.recorder.sink.taken.length) = [62]) &&
        (Wire.encode (.hello made.info)).toOption.any (·.length ≤ 64)) = true := by
    simp only [steps, attaches, told]
    decide +kernel
  obtain ⟨made, created, passes⟩ := Wire.except_any_ok short
  obtain ⟨lengths, encodes⟩ := Bool.and_eq_true_iff.mp passes
  obtain ⟨greeting, written, fits⟩ := Wire.except_any_ok encodes
  have registered : Channel.addSpaces made [] = .ok made := rfl
  obtain ⟨sent, _⟩ := frames_fit_behind_greeting MemorySink.anyView { frameLimit := 64 } ["gc"] []
    made made created registered steps connects
  refine ⟨connects, made, created, of_decide_eq_true lengths, fun client member result answered => ?_⟩
  obtain ⟨hello, _, encoded, _, _, _, refuses⟩ := sent client member
  cases written.symm.trans encoded
  cases refused : FrameSplitter.isRefusal result with
  | false => rfl
  | true =>
    have long := (refuses.mp ⟨result, answered, refused⟩).1
    exact absurd (of_decide_eq_true fits) (Nat.not_le.mpr long)

-- A greeting that is longer than the limit is sent nevertheless, and the viewer refuses it.
theorem long_greeting_refused :
    let settings : Settings := {
      serverName := "a server with a name that is longer than its frames", frameLimit := 64 }
    let steps : List (Step MemorySink) := .start { bind := .ok, first := .error .brokenPipe } ::
      .happens (.arrive (.client .unlimited)) :: List.replicate 5 (.happens .accept)
    let refused (client : Client MemorySink) : Option Error :=
      match ((FrameSplitter.ofLimit 64).feed client.recorder.sink.taken).next.1 with
      | .error error => some error
      | .ok _ => none
    ∃ made : Server MemorySink, Server.make settings ["gc"] = .ok made ∧
      let world := (World.ofServer made).run steps
      world.server.hasClient = true ∧ world.clients.map refused = [some (.frameTooLarge 71 64)] := by
  intro settings steps refused
  have answered : (Server.make (σ := MemorySink) settings ["gc"]).toOption.any (fun made =>
      let world := (World.ofServer made).run steps
      world.server.hasClient &&
        decide (world.clients.map refused = [some (.frameTooLarge 71 64)])) = true := by
    simp only [settings, steps, refused]
    decide +kernel
  obtain ⟨made, created, passes⟩ := Wire.except_any_ok answered
  obtain ⟨attached, refuses⟩ := Bool.and_eq_true_iff.mp passes
  exact ⟨made, created, attached, of_decide_eq_true refuses⟩

end HeapScope
