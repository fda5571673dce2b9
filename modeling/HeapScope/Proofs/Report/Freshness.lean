import HeapScope.Proofs.Report.Conduct
import HeapScope.Proofs.Report.Naming
import Mathlib.Data.List.Induction

/- What one report leaves in the frame for the next. Every way to close a frame empties it but one: a
   frame too long for its header can not be closed, and it stays when its report has ended (`Overgrows`).
   All that an action can do to the frame is said once (`act_passes`); from it a recorder is clean between
   two reports unless a report has overgrown since the last time everything was thrown away. -/
namespace HeapScope

namespace FrameBuilder

theorem append_grows {builder next : FrameBuilder} {command : Command}
    (accepted : builder.append command = .ok next) : builder.payload.length ≤ next.payload.length := by
  obtain ⟨_, bytes, _, rfl⟩ := append_ok accepted
  rw [List.length_append]
  exact Nat.le_add_right _ _

theorem perform_grows {builder next : FrameBuilder} {write : Call} {space : SpaceId}
    (tells : write.TellsOf space) (accepted : builder.perform write = (.ok none, next)) :
    builder.payload.length ≤ next.payload.length := by
  cases write with
  | append command => exact append_grows (settle_ok accepted)
  | beginControl space length =>
    rw [(begin_control_ok (settle_ok accepted)).2, List.length_append]
    exact Nat.le_add_right _ _
  | putControl flags =>
    rw [(put_control_ok (settle_ok accepted)).2, List.length_append]
    exact Nat.le_add_right _ _
  | reset => cases tells
  | finish => cases tells

end FrameBuilder

namespace Recorder

open Journal

variable {σ : Type} [Sink σ]

def Overgrows (recorder : Recorder σ) (action : Action) : Prop :=
  ∃ space length, action = .report (.endSpace space) ∧
    (recorder.act action).1 = .error (.tooManyItems "frame bytes" length)

def Overgrown (recorder : Recorder σ) (actions : List Action) : Prop :=
  ∃ before action after, actions = before ++ action :: after ∧
    (recorder.run before).Overgrows action ∧ .discard ∉ after ∧ .shutdown ∉ after

def Quiet (recorder : Recorder σ) : Prop :=
  recorder.current = none → recorder.frame.openControl = none ∧ recorder.namesInFrame = false

structure Stale (recorder : Recorder σ) : Prop where
  large : 2 ^ 32 ≤ recorder.frame.payload.length
  quiet : recorder.Quiet

inductive Passes (recorder : Recorder σ) (action : Action) (next : Recorder σ) : Prop where
  | aside (sink : next.sink = recorder.sink) (frame : next.frame = recorder.frame)
      (current : next.current = recorder.current)
      (names : next.namesInFrame = recorder.namesInFrame)
  | writes (sink : next.sink = recorder.sink) (isOpen : next.current ≠ none)
      (more : recorder.frame.payload.length ≤ next.frame.payload.length)
  | empties (clean : next.Clean)
      (because : recorder.frame.payload.length < 2 ^ 32 ∨ action = .discard ∨ action = .shutdown)
  | leaves (sink : next.sink = recorder.sink) (stale : next.Stale)
      (because : recorder.Overgrows action ∨ recorder.current = none ∧ recorder.frame ≠ .empty)

variable {recorder : Recorder σ}

theorem write_passes (quiet : recorder.Quiet) {call : ReportCall} {write : FrameBuilder.Call}
    (named : call.write? = some write) :
    recorder.Passes (.report call) (recorder.perform call).2 := by
  rcases write_cases recorder named with ⟨error, refused⟩ | ⟨frame, names, done, wrote, opened⟩
  · rw [refused]
    exact .aside rfl rfl rfl rfl
  · rw [done]
    rcases opened with ⟨space, is, tells⟩ | ⟨filling, tells⟩
    · exact .writes rfl (by simp [is]) (FrameBuilder.perform_grows tells wrote)
    · have isOpen (idle : recorder.current = none) : False := filling (quiet idle).1
      exact .writes rfl isOpen (FrameBuilder.perform_grows (tells ⟨0⟩) wrote)

theorem begin_space_passes (event : EventId) (space : SpaceId) (tileCount : UInt32) :
    recorder.Passes (.report (.beginSpace event space tileCount))
      (recorder.beginSpace event space tileCount).2 := by
  rcases begin_space_cases recorder event space tileCount with ⟨error, refused⟩ | ⟨frame, _, accepted, done⟩
  · rw [refused]
    exact .aside rfl rfl rfl rfl
  · rw [done]
    exact .writes rfl (by simp) (FrameBuilder.append_grows accepted)

theorem flush_leaves (recorder : Recorder σ) (closed : recorder.frame.openControl = none) :
    let length := recorder.frame.payload.length
    (2 ^ 32 ≤ length ∧ recorder.flushFrame = (.error (.tooManyItems "frame bytes" length), recorder)) ∨
    (length < 2 ^ 32 ∧ ∃ outcome sink,
      recorder.flushFrame = (outcome, { recorder with frame := .empty, sink }) ∧
      ∀ count, outcome ≠ .error (.tooManyItems "frame bytes" count)) := by
  intro length
  have finished := FrameBuilder.finish_cases recorder.frame.payload
  rw [← closed] at finished
  rcases finished with ⟨large, unfinished⟩ | ⟨small, _⟩
  · left
    refine ⟨large, ?_⟩
    rw [flushFrame, unfinished]
  · right
    rcases flush_outcomes recorder closed with ⟨large, _⟩ | ⟨outcome, sink, flushed, ended⟩
    · exact absurd small (Nat.not_lt.mpr large)
    · refine ⟨small, outcome, sink, flushed, ?_⟩
      rcases ended with ⟨_, rfl⟩ | ⟨_, rfl | ⟨cause, rfl⟩⟩
      · simp
      · simp
      · simp

theorem end_space_leaves (recorder : Recorder σ) (space : SpaceId) :
    (∃ error, dropped (.error error) = false ∧ recorder.endSpace space = (.error error, recorder)) ∨
    (∃ length next, recorder.endSpace space = (.error (.tooManyItems "frame bytes" length), next) ∧
      next.sink = recorder.sink ∧ next.Stale) ∨
    (recorder.frame.payload.length < 2 ^ 32 ∧ ∃ outcome next,
      recorder.endSpace space = (outcome, next) ∧ next.Clean ∧
      ∀ count, outcome ≠ .error (.tooManyItems "frame bytes" count)) := by
  rcases end_space_cases recorder space with ⟨error, _, undropped, refused⟩ | ⟨frame, _, accepted, named, done⟩
  · exact .inl ⟨error, undropped, refused⟩
  · right
    have grown := FrameBuilder.append_grows accepted
    have closed := FrameBuilder.append_closes accepted
    rcases flush_leaves { recorder with frame, current := none, namesInFrame := false } closed with
      ⟨large, flushed⟩ | ⟨small, outcome, sink, flushed, fine⟩
    · rw [done, flushed]
      exact .inl ⟨_, _, rfl, rfl, large, fun _ => ⟨closed, rfl⟩⟩
    · rw [done, flushed]
      exact .inr ⟨Nat.lt_of_le_of_lt grown small, _, _, rfl, ⟨rfl, rfl, rfl⟩, fine⟩

theorem end_space_passes (space : SpaceId) :
    recorder.Passes (.report (.endSpace space)) (recorder.endSpace space).2 := by
  rcases end_space_leaves recorder space with
    ⟨_, _, refused⟩ | ⟨length, next, overgrown, sink, stale⟩ | ⟨small, _, next, ended, clean, _⟩
  · rw [refused]
    exact .aside rfl rfl rfl rfl
  · rw [overgrown]
    exact .leaves sink stale (.inl ⟨space, length, rfl, congrArg Prod.fst overgrown⟩)
  · rw [ended]
    exact .empties clean (.inl small)

theorem overgrows_stale {action : Action} (overgrows : recorder.Overgrows action) :
    (recorder.act action).2.Stale := by
  obtain ⟨space, length, rfl, failed⟩ := overgrows
  simp only [act, perform] at failed ⊢
  rcases end_space_leaves recorder space with
    ⟨_, undropped, refused⟩ | ⟨_, next, overgrown, _, stale⟩ | ⟨_, _, next, ended, _, fine⟩
  · rw [refused] at failed
    cases failed
    cases undropped
  · rw [overgrown]
    exact stale
  · rw [ended] at failed
    exact absurd failed (fine length)

-- Only a report can leave too long a frame behind: a safepoint adds to what is left of one.
theorem safepoint_passes (quiet : recorder.Quiet) (event : EventId) :
    recorder.Passes (.report (.safepoint event)) (recorder.safepoint event).2 := by
  rcases safepoint_cases recorder event fun idle => (quiet idle).1 with
    ⟨_, _, refused⟩ | ⟨idle, frame, counts, accepted, done⟩
  · rw [refused]
    exact .aside rfl rfl rfl rfl
  · have grown := FrameBuilder.append_grows accepted
    have closed := FrameBuilder.append_closes accepted
    rw [done]
    rcases flush_leaves { recorder with frame, counts } closed with
      ⟨large, flushed⟩ | ⟨small, outcome, sink, flushed, _⟩
    · have stood : recorder.frame ≠ .empty := by
        intro empty
        obtain ⟨_, bytes, written, rfl⟩ := FrameBuilder.append_ok accepted
        have size := Wire.encode_size written
        simp [empty, FrameBuilder.empty, size, Command.wireSize] at large
      rw [flushed]
      exact .leaves rfl ⟨large, fun _ => ⟨closed, (quiet idle).2⟩⟩ (.inr ⟨idle, stood⟩)
    · rw [flushed]
      exact .empties ⟨idle, rfl, (quiet idle).2⟩ (.inl (Nat.lt_of_le_of_lt grown small))

theorem thrown_clean {action : Action} (thrown : action = .discard ∨ action = .shutdown) :
    (recorder.act action).2.Clean := by
  rcases thrown with rfl | rfl
  · exact recorder.discard_clean
  · rw [act, send_shutdown_eq]
    rcases flush_leaves { recorder.discard with frame := ⟨[0x0b], none⟩ } rfl with
      ⟨large, _⟩ | ⟨_, outcome, sink, flushed, _⟩
    · exact absurd large (show ¬2 ^ 32 ≤ 1 by decide)
    · rw [flushed]
      exact ⟨rfl, rfl, rfl⟩

theorem act_passes (quiet : recorder.Quiet) (action : Action) :
    recorder.Passes action (recorder.act action).2 := by
  cases action with
  | report call =>
    cases call with
    | beginSpace event space tileCount => exact begin_space_passes event space tileCount
    | tileNames space names => exact write_passes quiet rfl
    | streamData space stream kind values => exact write_passes quiet rfl
    | control space length => exact write_passes quiet rfl
    | putControl flags => exact write_passes quiet rfl
    | summary space stream values => exact write_passes quiet rfl
    | spaceInfo space info => exact write_passes quiet rfl
    | endSpace space => exact end_space_passes space
    | safepoint event => exact safepoint_passes quiet event
    | startTimer now => exact .aside rfl rfl rfl rfl
    | stopTimer now =>
      change recorder.Passes _ (recorder.stopTimer now)
      unfold stopTimer
      split
      · exact .aside rfl rfl rfl rfl
      · exact .aside rfl rfl rfl rfl
  | discard => exact .empties (thrown_clean (.inl rfl)) (.inr (.inl rfl))
  | shutdown => exact .empties (thrown_clean (.inr rfl)) (.inr (.inr rfl))
  | addCompensation length => exact .aside rfl rfl rfl rfl

omit [Sink σ] in
theorem tidy_quiet (tidy : recorder.Tidy) : recorder.Quiet := by
  intro idle
  rw [(tidy idle).frame]
  exact ⟨rfl, (tidy idle).names⟩

theorem act_tidy (tidy : recorder.Tidy) {action : Action} (fits : ¬recorder.Overgrows action) :
    (recorder.act action).2.Tidy := by
  cases act_passes (tidy_quiet tidy) action with
  | aside sink frame current names =>
    intro idle
    have clean := tidy (current.symm.trans idle)
    exact ⟨idle, frame.trans clean.frame, names.trans clean.names⟩
  | writes sink isOpen more => exact fun idle => absurd idle isOpen
  | empties clean because => exact fun _ => clean
  | leaves sink stale because =>
    rcases because with overgrows | ⟨idle, stood⟩
    · exact absurd overgrows fits
    · exact absurd (tidy idle).frame stood

theorem act_stale (stale : recorder.Stale) {action : Action} (kept : action ≠ .discard)
    (goesOn : action ≠ .shutdown) :
    (recorder.act action).2.Stale ∧ (recorder.act action).2.sink = recorder.sink := by
  cases act_passes stale.quiet action with
  | aside sink frame current names =>
    refine ⟨⟨frame ▸ stale.large, ?_⟩, sink⟩
    intro idle
    rw [frame, names]
    exact stale.quiet (current.symm.trans idle)
  | writes sink isOpen more =>
    exact ⟨⟨Nat.le_trans stale.large more, fun idle => absurd idle isOpen⟩, sink⟩
  | empties clean because =>
    rcases because with small | thrown | closed
    · exact absurd stale.large (Nat.not_le.mpr small)
    · exact absurd thrown kept
    · exact absurd closed goesOn
  | leaves sink stale because => exact ⟨stale, sink⟩

theorem run_append (recorder : Recorder σ) (front back : List Action) :
    recorder.run (front ++ back) = (recorder.run front).run back :=
  List.foldl_append

theorem run_snoc (recorder : Recorder σ) (actions : List Action) (last : Action) :
    recorder.run (actions ++ [last]) = ((recorder.run actions).act last).2 :=
  run_append recorder actions [last]

theorem snoc_split {items front back : List α} {last middle : α} :
    items ++ [last] = front ++ middle :: back ↔
      back = [] ∧ items = front ∧ last = middle ∨
        ∃ rest, back = rest ++ [last] ∧ items = front ++ middle :: rest := by
  constructor
  · intro split
    rcases List.eq_nil_or_concat back with rfl | ⟨rest, final, rfl⟩
    · obtain ⟨same, is⟩ := List.append_singleton_inj.mp split
      exact .inl ⟨rfl, same, is⟩
    · rw [List.concat_eq_append, ← List.cons_append, ← List.append_assoc] at split
      obtain ⟨same, rfl⟩ := List.append_singleton_inj.mp split
      exact .inr ⟨rest, List.concat_eq_append, same⟩
  · rintro (⟨rfl, rfl, rfl⟩ | ⟨rest, rfl, rfl⟩)
    · rfl
    · simp

theorem overgrown_snoc (recorder : Recorder σ) (actions : List Action) (last : Action) :
    recorder.Overgrown (actions ++ [last]) ↔
      (recorder.run actions).Overgrows last ∨
        recorder.Overgrown actions ∧ last ≠ .discard ∧ last ≠ .shutdown := by
  constructor
  · rintro ⟨before, action, after, split, overgrows, kept, goesOn⟩
    rcases snoc_split.mp split with ⟨_, rfl, rfl⟩ | ⟨rest, rfl, rfl⟩
    · exact .inl overgrows
    · simp only [List.mem_append, List.mem_singleton, not_or] at kept goesOn
      exact .inr ⟨⟨before, action, rest, rfl, overgrows, kept.1, goesOn.1⟩, Ne.symm kept.2,
        Ne.symm goesOn.2⟩
  · rintro (overgrows | ⟨⟨before, action, after, rfl, overgrows, kept, goesOn⟩, keeps, continues⟩)
    · exact ⟨actions, last, [], rfl, overgrows, List.not_mem_nil, List.not_mem_nil⟩
    · refine ⟨before, action, after ++ [last], by simp, overgrows, ?_, ?_⟩
      · simp [kept, Ne.symm keeps]
      · simp [goesOn, Ne.symm continues]

theorem run_tidy_or_stale (clean : recorder.Clean) (actions : List Action) :
    (¬recorder.Overgrown actions → (recorder.run actions).Tidy) ∧
      (recorder.Overgrown actions → (recorder.run actions).Stale) := by
  induction actions using List.reverseRecOn with
  | nil =>
    refine ⟨fun _ _ => clean, ?_⟩
    rintro ⟨before, action, after, split, _⟩
    cases before <;> cases split
  | append_singleton actions last ih =>
    rw [overgrown_snoc, run_snoc]
    constructor
    · intro fits
      obtain ⟨lastFits, thrown⟩ := not_or.mp fits
      by_cases overgrown : recorder.Overgrown actions
      · have gone : last = .discard ∨ last = .shutdown := by
          by_cases kept : last = .discard
          · exact .inl kept
          · by_cases goesOn : last = .shutdown
            · exact .inr goesOn
            · exact absurd ⟨overgrown, kept, goesOn⟩ thrown
        exact fun _ => thrown_clean gone
      · exact act_tidy (ih.1 overgrown) lastFits
    · rintro (overgrows | ⟨overgrown, kept, goesOn⟩)
      · exact overgrows_stale overgrows
      · exact (act_stale (ih.2 overgrown) kept goesOn).1

theorem stale_stays (stale : recorder.Stale) (further : List Action) (kept : .discard ∉ further)
    (goesOn : .shutdown ∉ further) :
    (recorder.run further).Stale ∧ (recorder.run further).sink = recorder.sink := by
  induction further generalizing recorder with
  | nil => exact ⟨stale, rfl⟩
  | cons action further ih =>
    simp only [List.mem_cons, not_or] at kept goesOn
    obtain ⟨next, sink⟩ := act_stale stale (Ne.symm kept.1) (Ne.symm goesOn.1)
    obtain ⟨last, same⟩ := ih next kept.2 goesOn.2
    exact ⟨last, same.trans sink⟩

theorem stale_safepoint (stale : recorder.Stale) (idle : recorder.current = none) (event : EventId) :
    ∃ length, (recorder.safepoint event).1 = .error (.tooManyItems "frame bytes" length) := by
  rcases safepoint_cases recorder event fun idle => (stale.quiet idle).1 with
    ⟨_, is, _⟩ | ⟨_, frame, counts, accepted, done⟩
  · rw [idle] at is
    cases is
  · have grown := FrameBuilder.append_grows accepted
    rw [done]
    rcases flush_leaves { recorder with frame, counts } (FrameBuilder.append_closes accepted) with
      ⟨_, flushed⟩ | ⟨small, _⟩
    · exact ⟨_, congrArg Prod.fst flushed⟩
    · exact absurd (Nat.le_trans stale.large grown) (Nat.not_le.mpr small)

def anew (recorder : Recorder σ) : Recorder σ :=
  { withLimit recorder.sink recorder.frameLimit with
    counts := recorder.counts
    compensation := recorder.compensation
    timer := recorder.timer }

omit [Sink σ] in
theorem clean_as_new (clean : recorder.Clean) : recorder.unnamed = recorder.anew := by
  obtain ⟨sink, frame, current, named, namesInFrame, limit, counts, compensation, timer⟩ := recorder
  obtain ⟨idle, empty, names⟩ := clean
  cases idle
  cases empty
  cases names
  rfl

inductive Made : Recorder σ → Prop where
  | plain (sink : σ) (limit : Nat) : Made (withLimit sink limit)
  | greeting {sink : σ} {info : ServerInfo} {greeted : Recorder σ} (limit : Nat)
      (sent : withHello sink info = (.ok (), greeted)) : Made { greeted with frameLimit := limit }

theorem made_plain {start : Recorder σ} (made : Made start) :
    ∃ sink limit, start = withLimit sink limit := by
  cases made with
  | plain sink limit => exact ⟨sink, limit, rfl⟩
  | @greeting sink info greeted limit sent =>
    unfold withHello at sent
    cases appended : (ofSink sink).frame.append (.hello info) with
    | error error =>
      simp [write, appended] at sent
    | ok frame =>
      simp only [write, appended] at sent
      rcases flush_leaves { ofSink sink with frame } (FrameBuilder.append_closes appended) with
        ⟨_, flushed⟩ | ⟨_, outcome, next, flushed, _⟩
      · rw [flushed] at sent
        cases sent
      · rw [flushed] at sent
        cases sent
        exact ⟨next, limit, rfl⟩

theorem made_clean {start : Recorder σ} (made : Made start) : start.Clean := by
  obtain ⟨sink, limit, rfl⟩ := made_plain made
  exact ⟨rfl, rfl, rfl⟩

theorem idle_recorder_as_new (start : Recorder σ) (made : Made start) (actions : List Action)
    (idle : (start.run actions).current = none) :
    let recorder := start.run actions
    recorder.frame.openControl = none ∧ recorder.namesInFrame = false ∧
    (recorder.frame = .empty ↔ ¬start.Overgrown actions) ∧
    (¬start.Overgrown actions → ∀ further,
      recorder.answers further = recorder.anew.answers further ∧
      (recorder.run further).unnamed = (recorder.anew.run further).unnamed) ∧
    (start.Overgrown actions →
      (∀ event, ∃ length,
        (recorder.safepoint event).1 = .error (.tooManyItems "frame bytes" length)) ∧
      ∀ further, .discard ∉ further → .shutdown ∉ further →
        2 ^ 32 ≤ (recorder.run further).frame.payload.length ∧
        (recorder.run further).sink = recorder.sink) := by
  intro recorder
  obtain ⟨tidy, stale⟩ := run_tidy_or_stale (made_clean made) actions
  by_cases overgrown : start.Overgrown actions
  · have left := stale overgrown
    have kept : recorder.frame ≠ .empty := by
      intro empty
      have large : 2 ^ 32 ≤ recorder.frame.payload.length := left.large
      rw [empty] at large
      exact absurd large (show ¬2 ^ 32 ≤ 0 by decide)
    refine ⟨(left.quiet idle).1, (left.quiet idle).2, ?_, fun fits => absurd overgrown fits, ?_⟩
    · exact ⟨fun empty => absurd empty kept, fun fits => absurd overgrown fits⟩
    · refine fun _ => ⟨stale_safepoint left idle, ?_⟩
      intro further undisposed goesOn
      obtain ⟨after, sink⟩ := stale_stays left further undisposed goesOn
      exact ⟨after.large, sink⟩
  · have clean := tidy overgrown idle
    refine ⟨congrArg (·.openControl) clean.frame, clean.names, ?_, ?_, fun grown => absurd grown overgrown⟩
    · exact ⟨fun _ => overgrown, fun _ => clean.frame⟩
    · intro _ further
      exact alike_goes_on (clean_as_new clean) further

-- The sink takes six bytes of a report and then no more.
theorem refused_report_forgotten :
    let start := withLimit (⟨[], some 6, none, .fails, false⟩ : MemorySink) 100
    let actions : List Action := [.report (.beginSpace ⟨0⟩ ⟨3⟩ 4), .report (.control ⟨3⟩ 1),
      .report (.putControl ⟨1⟩), .report (.endSpace ⟨3⟩)]
    Made start ∧ (start.run actions).current = none ∧
    (start.run actions).sink.taken = [0, 0, 0, 17, 3, 3] ∧
    ∀ further, (start.run actions).answers further = (start.run actions).anew.answers further := by
  intro start actions
  have made : Made start := .plain _ _
  have idle : (start.run actions).current = none := by
    simp only [start, actions]
    decide +kernel
  have taken : (start.run actions).sink.taken = [0, 0, 0, 17, 3, 3] := by
    simp only [start, actions]
    decide +kernel
  have empty : (start.run actions).frame = .empty := by
    simp only [start, actions]
    decide +kernel
  obtain ⟨_, _, fits, goesOn, _⟩ := idle_recorder_as_new start made actions idle
  exact ⟨made, idle, taken, fun further => (goesOn (fits.mp empty) further).1⟩

def blockReport (space : SpaceId) (flags : TileFlags) (length : UInt32) : List Action :=
  [.report (.beginSpace ⟨0⟩ space 4), .report (.control space length)] ++
    List.replicate length.toNat (.report (.putControl flags)) ++ [.report (.endSpace space)]

theorem entries_fill (recorder : Recorder σ) (space : SpaceId) (flags : TileFlags) (payload : Bytes)
    (more : Nat) :
    ({ recorder with frame := ⟨payload, some ⟨space, more + 1⟩⟩ }).run
        (List.replicate (more + 1) (.report (.putControl flags))) =
      { recorder with frame := ⟨payload ++ List.replicate (more + 1) flags.bits, none⟩ } := by
  induction more generalizing payload with
  | zero => rfl
  | succ more ih =>
    have rest := ih (payload ++ [flags.bits])
    rw [List.append_assoc, List.singleton_append] at rest
    exact rest

theorem block_report_stays (sink : σ) (limit : Nat) (space : SpaceId) (flags : TileFlags)
    (length : UInt32) (long : 2 ^ 32 ≤ 16 + length.toNat) :
    ∃ payload : Bytes, payload.length = 16 + length.toNat ∧
      (withLimit sink limit).run (blockReport space flags length) =
        { withLimit sink limit with frame := ⟨payload, none⟩ } := by
  let begin : Bytes := [3, space.number, 0, 0, 0, 0, 0, 4]
  let front := begin ++ FrameBuilder.controlHeader space length
  let entries := List.replicate length.toNat flags.bits
  have begun : (withLimit sink limit).run
      [.report (.beginSpace ⟨0⟩ space 4), .report (.control space length)] =
      { withLimit sink limit with
        current := some space
        frame := ⟨front, some ⟨space, length.toNat⟩⟩ } := by
    have unfilled : ¬length.toNat = 0 := by omega
    have opened : (⟨begin, none⟩ : FrameBuilder).beginControl space length =
        .ok ⟨front, if length.toNat = 0 then none else some ⟨space, length.toNat⟩⟩ := rfl
    rw [if_neg unfilled] at opened
    change (writeFor { withLimit sink limit with current := some space, frame := ⟨begin, none⟩ } space
      ((⟨begin, none⟩ : FrameBuilder).beginControl space length)).2 = _
    rw [opened]
    simp only [writeFor, checkOpen, ↓reduceIte, write]
  have filled : ({ withLimit sink limit with
      current := some space
      frame := ⟨front, some ⟨space, length.toNat⟩⟩ }).run
        (List.replicate length.toNat (.report (.putControl flags))) =
      { withLimit sink limit with current := some space, frame := ⟨front ++ entries, none⟩ } := by
    obtain ⟨more, enough⟩ : ∃ more, length.toNat = more + 1 := ⟨length.toNat - 1, by omega⟩
    simp only [entries, enough]
    exact entries_fill { withLimit sink limit with current := some space } space flags front more
  have size : (front ++ entries ++ [9, space.number]).length = 16 + length.toNat := by
    simp [front, begin, entries, FrameBuilder.controlHeader, Bytes.big_endian_length]
    omega
  refine ⟨front ++ entries ++ [9, space.number], size, ?_⟩
  unfold blockReport
  rw [run_snoc, run_append, begun, filled]
  have ended : (⟨front ++ entries, none⟩ : FrameBuilder).append (.spaceEnd space) =
      .ok ⟨front ++ entries ++ [9, space.number], none⟩ := FrameBuilder.append_closed _ _ _ rfl
  rcases flush_leaves { withLimit sink limit with
      frame := ⟨front ++ entries ++ [9, space.number], none⟩ } rfl with ⟨_, flushed⟩ | ⟨small, _⟩
  · have checked : checkOpen { withLimit sink limit with
        current := some space, frame := ⟨front ++ entries, none⟩ } space = .ok () := if_pos rfl
    change (endSpace _ space).2 = _
    rw [endSpace, writeFor, checked]
    dsimp only
    rw [ended]
    simp only [write, withLimit, ofSink] at flushed ⊢
    rw [flushed]
  · exact absurd (size ▸ long) (Nat.not_le.mpr small)

-- No space is open, and still the report is in the frame: its payload is 2 ^ 32 + 15 bytes long.
theorem long_report_blocks_safepoints :
    let recorder := (withLimit MemorySink.unlimited defaultFrameLimit).run
      (blockReport ⟨3⟩ ⟨1⟩ 4294967295)
    recorder.current = none ∧ recorder.frame ≠ .empty ∧
    (∃ length, (recorder.safepoint ⟨0⟩).1 = .error (.tooManyItems "frame bytes" length)) ∧
    (recorder.anew.safepoint ⟨0⟩).1 = .ok () := by
  intro recorder
  obtain ⟨payload, size, ran⟩ := block_report_stays MemorySink.unlimited defaultFrameLimit ⟨3⟩ ⟨1⟩
    4294967295 (by decide)
  have is : recorder =
      { withLimit MemorySink.unlimited defaultFrameLimit with frame := ⟨payload, none⟩ } := ran
  have stale : recorder.Stale := by
    rw [is]
    refine ⟨?_, fun _ => ⟨rfl, rfl⟩⟩
    rw [size]
    decide
  have idle : recorder.current = none := by rw [is]; rfl
  have fresh : recorder.anew = withLimit MemorySink.unlimited defaultFrameLimit := by rw [is]; rfl
  refine ⟨idle, ?_, stale_safepoint stale idle ⟨0⟩, ?_⟩
  · intro empty
    have large := stale.large
    rw [empty] at large
    exact absurd large (show ¬2 ^ 32 ≤ 0 by decide)
  · rw [fresh]
    decide +kernel

end Recorder

end HeapScope
