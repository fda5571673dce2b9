import HeapScope.Frame.Builder
import HeapScope.Proofs.Frame.Splitting
import HeapScope.Proofs.Wire.Commands

/- What a frame in the making holds, told by the calls that were accepted since it was last empty. Entries
   of a control block are calls of their own, so the calls are first gathered into commands; the invariant
   (`Holds`) says that the payload is the written form of the gathered commands, with the front of one
   more when a control block is still being filled. -/
namespace HeapScope

namespace FrameBuilder

def Call.entry? : Call → Option TileFlags
  | .putControl flags => some flags
  | _ => none

def gather : List Call → List Command
  | [] => []
  | .append command :: calls => command :: gather calls
  | .beginControl space length :: calls =>
    .control space ((calls.take length.toNat).filterMap Call.entry?) :: gather (calls.drop length.toNat)
  | _ :: calls => gather calls
termination_by calls => calls.length
decreasing_by
  all_goals simp only [List.length_cons, List.length_drop]
  all_goals omega

structure History where
  builder : FrameBuilder
  accepted : List Call

namespace History

def start : History := ⟨empty, []⟩

def note (accepted : List Call) (call : Call) : Except Error (Option Bytes) → List Call
  | .error _ => accepted
  | .ok _ =>
    match call with
    | .reset | .finish => []
    | call => accepted ++ [call]

def after (history : History) (call : Call) : History where
  builder := (history.builder.perform call).2
  accepted := note history.accepted call (history.builder.perform call).1

def ofCalls (calls : List Call) : History := calls.foldl after start

end History

structure Whole (calls : List Call) (payload : Bytes) : Prop where
  written : Wire.writeEach Wire.encode (gather calls) = .ok payload
  splits : ∀ more, gather (calls ++ more) = gather calls ++ gather more

def controlHeader (space : SpaceId) (length : UInt32) : Bytes :=
  (Command.control space []).opcode :: space.number :: Bytes.bigEndian 4 length.toNat

inductive Holds : List Call → FrameBuilder → Prop where
  | whole {calls : List Call} {payload : Bytes} (done : Whole calls payload) :
      Holds calls ⟨payload, none⟩
  | filling {calls : List Call} {payload : Bytes} (space : SpaceId) (length : UInt32)
      (entries : List TileFlags) (remaining : Nat) (done : Whole calls payload)
      (count : entries.length + remaining = length.toNat) (unfilled : 0 < remaining) :
      Holds (calls ++ .beginControl space length :: entries.map .putControl)
        ⟨payload ++ controlHeader space length ++ entries.map (·.bits), some ⟨space, remaining⟩⟩

theorem whole_nil : Whole [] [] := by
  constructor
  · rw [gather]
    rfl
  · intro more
    rw [List.nil_append, gather, List.nil_append]

theorem holds_empty : Holds [] empty := .whole whole_nil

theorem gather_block (space : SpaceId) (length : UInt32) (entries : List TileFlags)
    (full : entries.length = length.toNat) (more : List Call) :
    gather (.beginControl space length :: entries.map .putControl ++ more) =
      .control space entries :: gather more := by
  have long : (entries.map Call.putControl).length = length.toNat := by rw [List.length_map, full]
  have front : (entries.map Call.putControl ++ more).take length.toNat = entries.map .putControl :=
    List.take_left' long
  have back : (entries.map Call.putControl ++ more).drop length.toNat = more :=
    List.drop_left' long
  have flags : (entries.map Call.putControl).filterMap Call.entry? = entries := by
    rw [List.filterMap_map]
    exact List.filterMap_some
  rw [List.cons_append, gather, front, back, flags]

theorem whole_append {calls : List Call} {payload bytes : Bytes} {command : Command}
    (done : Whole calls payload) (written : Wire.encode command = .ok bytes) :
    Whole (calls ++ [.append command]) (payload ++ bytes) := by
  have gathered : gather [.append command] = [command] := by rw [gather, gather]
  constructor
  · rw [done.splits, gathered]
    exact Wire.write_each_append done.written (Wire.write_each_singleton written)
  · intro more
    rw [List.append_assoc, done.splits, done.splits, gathered, List.singleton_append, gather,
      List.append_assoc, List.singleton_append]

theorem encode_block (space : SpaceId) (length : UInt32) (entries : List TileFlags)
    (full : entries.length = length.toNat) :
    Wire.encode (.control space entries) =
      .ok (controlHeader space length ++ entries.map (·.bits)) := by
  have small : entries.length < 256 ^ 4 := by
    rw [full]
    exact length.toNat_lt
  have count : Wire.writeCount 4 "control block" entries.length =
      .ok (Bytes.bigEndian 4 length.toNat) := by rw [Wire.writeCount, if_pos small, full]
  simp only [Wire.encode, Wire.writeFields, count]
  rfl

theorem whole_block {calls : List Call} {payload : Bytes} (space : SpaceId) (length : UInt32)
    (entries : List TileFlags) (done : Whole calls payload) (full : entries.length = length.toNat) :
    Whole (calls ++ .beginControl space length :: entries.map .putControl)
      (payload ++ controlHeader space length ++ entries.map (·.bits)) := by
  have gathered := gather_block space length entries full []
  rw [List.append_nil, gather] at gathered
  constructor
  · rw [done.splits, gathered, List.append_assoc]
    exact Wire.write_each_append done.written
      (Wire.write_each_singleton (encode_block space length entries full))
  · intro more
    rw [List.append_assoc, done.splits, done.splits, gathered, gather_block _ _ _ full,
      List.append_assoc, List.singleton_append]

theorem holds_closed {calls : List Call} {builder : FrameBuilder} (holds : Holds calls builder)
    (filled : builder.checkFilled = .ok ()) :
    Whole calls builder.payload ∧ builder.openControl = none := by
  cases holds with
  | whole done => exact ⟨done, rfl⟩
  | filling => cases filled

theorem append_holds {calls : List Call} {builder next : FrameBuilder} {command : Command}
    (holds : Holds calls builder) (accepted : builder.append command = .ok next) :
    Holds (calls ++ [.append command]) next := by
  obtain ⟨_, filled, accepted⟩ := Wire.except_bind_ok accepted
  obtain ⟨bytes, written, accepted⟩ := Wire.except_bind_ok accepted
  obtain ⟨done, closed⟩ := holds_closed holds filled
  cases accepted
  rw [closed]
  exact .whole (whole_append done written)

theorem begin_control_holds {calls : List Call} {builder next : FrameBuilder} {space : SpaceId}
    {length : UInt32} (holds : Holds calls builder)
    (accepted : builder.beginControl space length = .ok next) :
    Holds (calls ++ [.beginControl space length]) next := by
  obtain ⟨_, filled, accepted⟩ := Wire.except_bind_ok accepted
  obtain ⟨done, closed⟩ := holds_closed holds filled
  cases accepted
  by_cases none : length.toNat = 0
  · rw [if_pos none]
    simpa [controlHeader] using Holds.whole (whole_block space length [] done none.symm)
  · rw [if_neg none]
    simpa [controlHeader] using Holds.filling space length [] length.toNat done (Nat.zero_add _) (by omega)

theorem put_control_holds {calls : List Call} {builder next : FrameBuilder} {flags : TileFlags}
    (holds : Holds calls builder) (accepted : builder.putControl flags = .ok next) :
    Holds (calls ++ [.putControl flags]) next := by
  cases holds with
  | whole done => cases accepted
  | filling space length entries remaining done count unfilled =>
    cases accepted
    have calls : entries.map Call.putControl ++ [.putControl flags] =
        (entries ++ [flags]).map .putControl := by simp
    have bytes : entries.map (·.bits) ++ [flags.bits] = (entries ++ [flags]).map (·.bits) := by simp
    rw [List.append_assoc, List.cons_append, calls]
    dsimp only
    rw [List.append_assoc _ (entries.map _) _, bytes]
    by_cases last : remaining = 1
    · rw [if_pos last]
      have full : (entries ++ [flags]).length = length.toNat := by
        rw [List.length_append, List.length_singleton]
        omega
      exact .whole (whole_block space length (entries ++ [flags]) done full)
    · rw [if_neg last]
      have left : (entries ++ [flags]).length + (remaining - 1) = length.toNat := by
        rw [List.length_append, List.length_singleton]
        omega
      exact .filling space length (entries ++ [flags]) (remaining - 1) done left (by omega)

theorem finish_ok {builder next : FrameBuilder} {frame : Bytes}
    (finished : builder.finish = .ok (frame, next)) :
    builder.checkFilled = .ok () ∧ builder.payload.length < 256 ^ headerLength ∧
      frame = frameOf builder.payload ∧ next = empty := by
  obtain ⟨_, filled, finished⟩ := Wire.except_bind_ok finished
  obtain ⟨header, counted, finished⟩ := Wire.except_bind_ok finished
  cases finished
  obtain ⟨small, rfl⟩ := Wire.write_count_ok counted
  exact ⟨filled, small, rfl, rfl⟩

inductive Takes (builder next : FrameBuilder) : Call → Prop where
  | append {command : Command} (done : builder.append command = .ok next) :
      Takes builder next (.append command)
  | begins {space : SpaceId} {length : UInt32} (done : builder.beginControl space length = .ok next) :
      Takes builder next (.beginControl space length)
  | puts {flags : TileFlags} (done : builder.putControl flags = .ok next) :
      Takes builder next (.putControl flags)

theorem after_cases (history : History) (call : Call) :
    history.after call = history ∨ history.after call = .start ∨
      ∃ next, history.builder.Takes next call ∧
        history.after call = ⟨next, history.accepted ++ [call]⟩ := by
  obtain ⟨builder, accepted⟩ := history
  cases call with
  | append command =>
    cases outcome : builder.append command with
    | error error =>
      left
      simp only [History.after, perform, outcome, perform.settle, History.note]
    | ok next =>
      right; right
      refine ⟨next, .append outcome, ?_⟩
      simp only [History.after, perform, outcome, perform.settle, History.note]
  | beginControl space length =>
    cases outcome : builder.beginControl space length with
    | error error =>
      left
      simp only [History.after, perform, outcome, perform.settle, History.note]
    | ok next =>
      right; right
      refine ⟨next, .begins outcome, ?_⟩
      simp only [History.after, perform, outcome, perform.settle, History.note]
  | putControl flags =>
    cases outcome : builder.putControl flags with
    | error error =>
      left
      simp only [History.after, perform, outcome, perform.settle, History.note]
    | ok next =>
      right; right
      refine ⟨next, .puts outcome, ?_⟩
      simp only [History.after, perform, outcome, perform.settle, History.note]
  | reset =>
    right; left
    rfl
  | finish =>
    cases outcome : builder.finish with
    | error error =>
      left
      simp only [History.after, perform, outcome, History.note]
    | ok done =>
      right; left
      obtain ⟨frame, next⟩ := done
      obtain ⟨_, _, _, fresh⟩ := finish_ok outcome
      simp only [History.after, perform, outcome, History.note, fresh]
      rfl

theorem history_induction (holds : History → Prop) (start : holds .start)
    (step : ∀ history call, holds history → holds (history.after call)) (calls : List Call) :
    holds (History.ofCalls calls) := by
  suffices each : ∀ history, holds history → holds (calls.foldl History.after history) from
    each .start start
  induction calls with
  | nil =>
    intro history held
    exact held
  | cons call calls ih =>
    intro history held
    exact ih (history.after call) (step history call held)

theorem perform_holds {history : History} (holds : Holds history.accepted history.builder)
    (call : Call) : Holds (history.after call).accepted (history.after call).builder := by
  rcases after_cases history call with same | fresh | ⟨next, taken, noted⟩
  · rw [same]
    exact holds
  · rw [fresh]
    exact holds_empty
  · rw [noted]
    cases taken with
    | append done => exact append_holds holds done
    | begins done => exact begin_control_holds holds done
    | puts done => exact put_control_holds holds done

theorem history_holds (calls : List Call) :
    Holds (History.ofCalls calls).accepted (History.ofCalls calls).builder :=
  history_induction (fun history => Holds history.accepted history.builder) holds_empty
    (fun _ call holds => perform_holds holds call) calls

theorem finish_restores {calls : List Call} {builder next : FrameBuilder} {frame : Bytes}
    (holds : Holds calls builder) (finished : builder.finish = .ok (frame, next)) :
    ∃ payload, frame = frameOf payload ∧ payload.length < 2 ^ 32 ∧
      Wire.decode payload = .ok ((gather calls).map Command.onWire) := by
  obtain ⟨filled, small, framed, fresh⟩ := finish_ok finished
  obtain ⟨done, closed⟩ := holds_closed holds filled
  exact ⟨builder.payload, framed, small, Wire.decode_written (gather calls) _ done.written⟩

theorem finished_frame_restores (calls : List Call) (frame : Bytes)
    (finished : ((History.ofCalls calls).builder.perform .finish).1 = .ok (some frame)) :
    ∃ payload, frame = Bytes.bigEndian 4 payload.length ++ payload ∧ payload.length < 2 ^ 32 ∧
      Wire.decode payload = .ok ((gather (History.ofCalls calls).accepted).map Command.onWire) := by
  have holds := history_holds calls
  cases outcome : (History.ofCalls calls).builder.finish with
  | error error =>
    simp only [perform, outcome] at finished
    cases finished
  | ok done =>
    simp only [perform, outcome] at finished
    cases finished
    exact finish_restores holds outcome

theorem mixed_calls_restored :
    let calls : List Call := [.append .pause, .reset, .append (.safepoint ⟨1⟩ 2 ⟨1999⟩),
      .putControl ⟨1⟩, .beginControl ⟨3⟩ 2, .append .play, .putControl ⟨0xe1⟩, .putControl ⟨4⟩]
    let frame : Bytes := [0, 0, 0, 23, 10, 0, 1, 0, 0, 0, 2, 0, 0, 0, 0, 0, 0, 0, 1,
      6, 3, 0, 0, 0, 2, 0xe1, 4]
    ((History.ofCalls calls).builder.perform .finish).1 = .ok (some frame) ∧
      ∃ payload, frame = Bytes.bigEndian 4 payload.length ++ payload ∧ payload.length < 2 ^ 32 ∧
        Wire.decode payload =
          .ok ((gather (History.ofCalls calls).accepted).map Command.onWire) :=
  ⟨rfl, finished_frame_restores _ _ rfl⟩

end FrameBuilder

end HeapScope
