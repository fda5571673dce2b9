import HeapScope.Proofs.Report.Outcomes

namespace HeapScope

namespace FrameBuilder

def Carries (calls : List Call) (builder : FrameBuilder) : Prop :=
  2 ^ 32 ≤ builder.payload.length ∨ Holds calls builder

theorem append_carries {calls : List Call} {builder next : FrameBuilder} {command : Command}
    (carries : Carries calls builder) (accepted : builder.append command = .ok next) :
    Carries (calls ++ [.append command]) next := by
  rcases carries with long | holds
  · left
    obtain ⟨_, bytes, _, rfl⟩ := append_ok accepted
    rw [List.length_append]
    omega
  · exact .inr (append_holds holds accepted)

theorem perform_carries {calls : List Call} {builder next : FrameBuilder} {call : Call}
    {space : SpaceId} (carries : Carries calls builder) (tells : call.TellsOf space)
    (accepted : builder.perform call = (.ok none, next)) : Carries (calls ++ [call]) next := by
  cases call with
  | append command => exact append_carries carries (settle_ok accepted)
  | beginControl named length =>
    have begun := settle_ok accepted
    rcases carries with long | holds
    · left
      rw [(begin_control_ok begun).2, List.length_append]
      omega
    · exact .inr (begin_control_holds holds begun)
  | putControl flags =>
    have put := settle_ok accepted
    rcases carries with long | holds
    · left
      rw [(put_control_ok put).2, List.length_append]
      omega
    · exact .inr (put_control_holds holds put)
  | reset => cases tells
  | finish => cases tells

-- What can be closed has not grown too long, so the calls are what it holds.
theorem append_reads {calls : List Call} {builder next : FrameBuilder} {command : Command}
    (carries : Carries calls builder) (accepted : builder.append command = .ok next)
    (small : next.payload.length < 2 ^ 32) :
    Wire.decode next.payload = .ok ((gather calls ++ [command]).map Command.onWire) := by
  obtain ⟨closed, bytes, written, rfl⟩ := append_ok accepted
  rw [List.length_append] at small
  rcases carries with long | holds
  · omega
  have filled : builder.checkFilled = .ok () := by rw [checkFilled, closed]
  have whole := whole_append (holds_closed holds filled).1 written
  have gathered : gather (calls ++ [.append command]) = gather calls ++ [command] := by
    rw [(holds_closed holds filled).1.splits, gather, gather]
  rw [← gathered]
  exact Wire.decode_written _ _ whole.written

theorem gather_tells {space : SpaceId} (calls : List Call) (tell : ∀ call ∈ calls, call.TellsOf space) :
    ∀ command ∈ gather calls, command.TellsOf space := by
  induction calls using gather.induct with
  | case1 => simp [gather]
  | case2 command calls ih =>
    rw [gather]
    intro other member
    rcases List.mem_cons.mp member with rfl | member
    · exact tell (.append other) List.mem_cons_self
    · exact ih (fun call later => tell call (List.mem_cons_of_mem _ later)) other member
  | case3 named length calls ih =>
    rw [gather]
    intro other member
    rcases List.mem_cons.mp member with rfl | member
    · exact tell (.beginControl named length) List.mem_cons_self
    · exact ih (fun call later => tell call (List.mem_cons_of_mem _ (List.mem_of_mem_drop later)))
        other member
  | case4 head calls noAppend noBegin ih =>
    rw [gather]
    · exact ih fun call later => tell call (List.mem_cons_of_mem _ later)
    · exact noAppend
    · exact noBegin

end FrameBuilder

open FrameBuilder

def Parcel.WellFormed : Parcel → Prop
  | .report _ space _ body => ∀ command ∈ body, command.TellsOf space
  | .shutdown | .safepoint .. => True

variable {σ : Type} [Sink σ]

def Sent (view : SinkView σ) (before : Bytes) (limit : Nat) (sink : σ) (parcels : List Parcel)
    (failed : Bool) : Prop :=
  ∃ (payloads : List Bytes) (written : Bytes),
    (∀ payload ∈ payloads, FitsFrame limit payload) ∧
    payloads.map Wire.decode =
      parcels.map (fun parcel => .ok (parcel.commands.map Command.onWire)) ∧
    view.taken sink = before ++ written ∧ written <+: payloads.flatMap frameOf ∧
    (written = payloads.flatMap frameOf ∨ view.spent sink ∧ failed = true)

theorem sent_nothing (view : SinkView σ) (limit : Nat) (sink : σ) (failed : Bool) :
    Sent view (view.taken sink) limit sink [] failed :=
  ⟨[], [], by simp, rfl, (List.append_nil _).symm, List.prefix_rfl, .inl rfl⟩

theorem sent_worsens {view : SinkView σ} {before : Bytes} {limit : Nat} {sink : σ}
    {parcels : List Parcel} {failed : Bool} (sent : Sent view before limit sink parcels failed)
    (more : Bool) : Sent view before limit sink parcels (failed || more) := by
  obtain ⟨payloads, written, fit, decoded, taken, part, whole | ⟨spent, because⟩⟩ := sent
  · exact ⟨payloads, written, fit, decoded, taken, part, .inl whole⟩
  · exact ⟨payloads, written, fit, decoded, taken, part, .inr ⟨spent, by rw [because, Bool.true_or]⟩⟩

-- One more frame goes to the sink. A spent sink takes none of it, so the front stays one.
theorem sent_gave {view : SinkView σ} {before payload : Bytes} {limit : Nat} {sink next : σ}
    {parcels : List Parcel} {parcel : Parcel} {failed more : Bool}
    (sent : Sent view before limit sink parcels failed) (fits : FitsFrame limit payload)
    (reads : Wire.decode payload = .ok (parcel.commands.map Command.onWire))
    (gave : view.Gave sink next (frameOf payload) (more = true)) :
    Sent view before limit next (parcels ++ [parcel]) (failed || more) := by
  obtain ⟨payloads, written, fit, decoded, taken, part, state⟩ := sent
  have allFit : ∀ other ∈ payloads ++ [payload], FitsFrame limit other := by
    intro other member
    rcases List.mem_append.mp member with earlier | last
    · exact fit other earlier
    · rw [List.mem_singleton.mp last]
      exact fits
  have allDecoded : (payloads ++ [payload]).map Wire.decode =
      (parcels ++ [parcel]).map (fun parcel => .ok (parcel.commands.map Command.onWire)) := by
    rw [List.map_append, List.map_append, decoded]
    exact congrArg _ (congrArg (· :: []) reads)
  have frames : (payloads ++ [payload]).flatMap frameOf = payloads.flatMap frameOf ++ frameOf payload := by
    simp
  cases gave with
  | whole fresh tookAll =>
    rcases state with whole | ⟨spent, _⟩
    · refine ⟨payloads ++ [payload], written ++ frameOf payload, allFit, allDecoded, ?_, ?_, ?_⟩
      · rw [tookAll, taken, List.append_assoc]
      · exact ⟨[], by rw [List.append_nil, frames, whole]⟩
      · rw [frames, whole]
        exact .inl rfl
    · exact absurd spent fresh
  | front because front partOf spent tookFront late =>
    have failing : (failed || more) = true := by rw [because, Bool.or_true]
    rcases state with whole | ⟨alreadySpent, _⟩
    · refine ⟨payloads ++ [payload], written ++ front, allFit, allDecoded, ?_, ?_, .inr ⟨spent, failing⟩⟩
      · rw [tookFront, taken, List.append_assoc]
      · rw [frames, whole]
        exact (List.prefix_append_right_inj _).mpr partOf
    · have nothing := late alreadySpent
      refine ⟨payloads ++ [payload], written, allFit, allDecoded, ?_, ?_, .inr ⟨spent, failing⟩⟩
      · rw [tookFront, taken, nothing, List.append_nil]
      · rw [frames]
        exact part.trans (List.prefix_append _ _)

end HeapScope
