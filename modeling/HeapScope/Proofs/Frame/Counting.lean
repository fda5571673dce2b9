import HeapScope.Proofs.Frame.History
import HeapScope.Proofs.Frame.InPlace
import Mathlib.Data.List.Induction

namespace HeapScope

namespace FrameBuilder

def countDown (block : OpenControl) : Option OpenControl :=
  if block.remaining = 1 then none else some { block with remaining := block.remaining - 1 }

def track (block : Option OpenControl) : Call → Option OpenControl
  | .beginControl space length => if length.toNat = 0 then none else some ⟨space, length.toNat⟩
  | .putControl _ => block.bind countDown
  | .append _ | .reset | .finish => block

def stillOpen (accepted : List Call) : Option OpenControl := accepted.foldl track none

theorem still_open_snoc (accepted : List Call) (call : Call) :
    stillOpen (accepted ++ [call]) = track (stillOpen accepted) call :=
  List.foldl_append

theorem entries_counted (space : SpaceId) (entries : List TileFlags) {remaining : Nat}
    (unfilled : 0 < remaining) :
    (entries.map Call.putControl).foldl track (some ⟨space, entries.length + remaining⟩) =
      some ⟨space, remaining⟩ := by
  induction entries with
  | nil => rw [List.length_nil, Nat.zero_add]; rfl
  | cons flags entries ih =>
    have more : ¬(entries.length + 1 + remaining = 1) := by omega
    have less : entries.length + 1 + remaining - 1 = entries.length + remaining := by omega
    rw [List.map_cons, List.foldl_cons, List.length_cons, track, Option.bind_some, countDown,
      if_neg more, less]
    exact ih

theorem block_still_open (earlier : List Call) (space : SpaceId) (length : UInt32)
    (entries : List TileFlags) {remaining : Nat} (unfilled : 0 < remaining)
    (count : entries.length + remaining = length.toNat) :
    stillOpen (earlier ++ .beginControl space length :: entries.map .putControl) =
      some ⟨space, remaining⟩ := by
  have some : ¬(length.toNat = 0) := by omega
  rw [stillOpen, List.foldl_append, List.foldl_cons, track, if_neg some, ← count]
  exact entries_counted space entries unfilled

def History.Tracked (history : History) : Prop :=
  history.builder.openControl = stillOpen history.accepted

theorem perform_tracked {history : History} (tracked : history.Tracked) (call : Call) :
    (history.after call).Tracked := by
  rcases after_cases history call with same | fresh | ⟨next, taken, noted⟩
  · rw [same]
    exact tracked
  · rw [fresh]
    exact rfl
  · rw [noted, History.Tracked, still_open_snoc, ← tracked]
    cases taken with
    | append done =>
      obtain ⟨_, _, done⟩ := Wire.except_bind_ok done
      obtain ⟨_, _, changed⟩ := Wire.except_bind_ok done
      cases changed
      rfl
    | begins done =>
      obtain ⟨_, _, changed⟩ := Wire.except_bind_ok done
      cases changed
      rfl
    | puts done =>
      obtain ⟨⟨payload, _ | block⟩, accepted⟩ := history
      · cases done
      · cases done
        rfl

theorem history_tracked (calls : List Call) : (History.ofCalls calls).Tracked :=
  history_induction History.Tracked rfl (fun _ call tracked => perform_tracked tracked call) calls

theorem open_iff_unfilled (calls : List Call) (space : SpaceId) (remaining : Nat) :
    (History.ofCalls calls).builder.openControl = some ⟨space, remaining⟩ ↔
      0 < remaining ∧ ∃ (earlier : List Call) (length : UInt32) (entries : List TileFlags),
        (History.ofCalls calls).accepted =
          earlier ++ .beginControl space length :: entries.map .putControl ∧
        entries.length + remaining = length.toNat := by
  constructor
  · intro isOpen
    have holds := history_holds calls
    generalize History.ofCalls calls = history at isOpen holds ⊢
    obtain ⟨builder, accepted⟩ := history
    cases holds with
    | whole done => cases isOpen
    | filling space length entries remaining done count unfilled =>
      cases isOpen
      exact ⟨unfilled, _, length, entries, rfl, count⟩
  · rintro ⟨unfilled, earlier, length, entries, accepted, count⟩
    rw [history_tracked, accepted]
    exact block_still_open earlier space length entries unfilled count

theorem put_control_in_place {builder : FrameBuilder}
    (roomy : ∀ block ∈ builder.openControl, 0 < block.remaining ∧ block.remaining < 2 ^ 32)
    (flags : TileFlags) :
    builder.performInPlace (.putControl flags) = builder.perform (.putControl flags) := by
  obtain ⟨payload, _ | block⟩ := builder
  · rfl
  · obtain ⟨unfilled, small⟩ := roomy block rfl
    have counted : (UInt32.ofNat block.remaining - 1).toNat = block.remaining - 1 := by
      have fits : (UInt32.ofNat block.remaining).toNat = block.remaining :=
        UInt32.toNat_ofNat_of_lt' small
      have above : (1 : UInt32) ≤ UInt32.ofNat block.remaining := by
        rw [UInt32.le_iff_toNat_le, fits]
        exact unfilled
      rw [UInt32.toNat_sub_of_le _ _ above, fits]
      rfl
    have last : UInt32.ofNat block.remaining - 1 = 0 ↔ block.remaining = 1 := by
      rw [← UInt32.toNat_inj, counted, UInt32.toNat_zero]
      omega
    simp only [performInPlace, perform, putControl, perform.settle, last, counted]

theorem history_in_place (calls : List Call) (call : Call) :
    (History.ofCalls calls).builder.performInPlace call =
      (History.ofCalls calls).builder.perform call := by
  cases call with
  | append command => exact append_in_place _ command
  | beginControl space length => exact begin_control_in_place _ space length
  | putControl flags =>
    refine put_control_in_place ?_ flags
    intro block isOpen
    obtain ⟨unfilled, earlier, length, entries, accepted, count⟩ :=
      (open_iff_unfilled calls block.space block.remaining).mp isOpen
    have bound : length.toNat < 2 ^ 32 := length.toNat_lt
    omega
  | reset => rfl
  | finish => exact finish_in_place _

def runInPlace (calls : List Call) : FrameBuilder :=
  calls.foldl (fun builder call => (builder.performInPlace call).2) empty

theorem run_in_place (calls : List Call) : runInPlace calls = (History.ofCalls calls).builder := by
  induction calls using List.reverseRecOn with
  | nil => rfl
  | append_singleton calls call ih =>
    have ran : runInPlace (calls ++ [call]) = ((runInPlace calls).performInPlace call).2 :=
      List.foldl_append
    have noted : History.ofCalls (calls ++ [call]) = (History.ofCalls calls).after call :=
      List.foldl_append
    rw [ran, noted, ih, history_in_place]
    rfl

theorem settle_refused {old : FrameBuilder} {result : Except Error FrameBuilder} {error : Error}
    (refused : (perform.settle old result).1 = .error error) : (perform.settle old result).2 = old := by
  cases result with
  | error => rfl
  | ok changed => cases refused

theorem refused_unchanged {builder : FrameBuilder} {call : Call} {error : Error}
    (refused : (builder.perform call).1 = .error error) : (builder.perform call).2 = builder := by
  cases call with
  | append command => exact settle_refused refused
  | beginControl space length => exact settle_refused refused
  | putControl flags => exact settle_refused refused
  | reset => cases refused
  | finish =>
    cases outcome : builder.finish with
    | error => simp only [perform, outcome]
    | ok done =>
      simp only [perform, outcome] at refused
      cases refused

theorem open_refuses {builder : FrameBuilder} {block : OpenControl} {call : Call}
    (isOpen : builder.openControl = some block) (noEntry : ∀ flags, call ≠ .putControl flags)
    (noReset : call ≠ .reset) :
    builder.perform call = (.error (.incompleteControl block.space block.remaining), builder) := by
  obtain ⟨payload, _⟩ := builder
  cases isOpen
  cases call with
  | append command => rfl
  | beginControl space length => rfl
  | putControl flags => exact absurd rfl (noEntry flags)
  | reset => exact absurd rfl noReset
  | finish => rfl

theorem entry_refused_iff (builder : FrameBuilder) (flags : TileFlags) :
    (∃ error, (builder.perform (.putControl flags)).1 = .error error) ↔ builder.openControl = none := by
  obtain ⟨payload, _ | block⟩ := builder
  · exact ⟨fun _ => rfl, fun _ => ⟨.noOpenControl, rfl⟩⟩
  · constructor
    · rintro ⟨error, refused⟩
      cases refused
    · intro closed
      cases closed

structure Atomic (calls : List Call) (call : Call) : Prop where
  builder : runInPlace calls = (History.ofCalls calls).builder
  checked : (runInPlace calls).performInPlace call = (runInPlace calls).perform call
  unchanged : ∀ error, ((runInPlace calls).performInPlace call).1 = .error error →
    ((runInPlace calls).performInPlace call).2 = runInPlace calls
  lacks : ∀ space remaining, (runInPlace calls).openControl = some ⟨space, remaining⟩ ↔
    0 < remaining ∧ ∃ (earlier : List Call) (length : UInt32) (entries : List TileFlags),
      (History.ofCalls calls).accepted =
        earlier ++ .beginControl space length :: entries.map .putControl ∧
      entries.length + remaining = length.toNat
  incomplete : ∀ block, (runInPlace calls).openControl = some block →
    (∀ flags, call ≠ .putControl flags) → call ≠ .reset →
    (runInPlace calls).performInPlace call =
      (.error (.incompleteControl block.space block.remaining), runInPlace calls)
  entries : ∀ flags,
    ((∃ error, ((runInPlace calls).performInPlace (.putControl flags)).1 = .error error) ↔
      (runInPlace calls).openControl = none) ∧
    ((runInPlace calls).openControl = none →
      (runInPlace calls).performInPlace (.putControl flags) = (.error .noOpenControl, runInPlace calls))

theorem failed_call_changes_nothing (calls : List Call) (call : Call) : Atomic calls call := by
  have same := run_in_place calls
  have inPlace (call : Call) : (runInPlace calls).performInPlace call = (runInPlace calls).perform call := by
    rw [same]
    exact history_in_place calls call
  refine ⟨same, inPlace call, ?unchanged, ?lacks, ?incomplete, ?entries⟩
  case unchanged =>
    intro error refused
    rw [inPlace] at refused ⊢
    exact refused_unchanged refused
  case lacks =>
    intro space remaining
    rw [same]
    exact open_iff_unfilled calls space remaining
  case incomplete =>
    intro block isOpen noEntry noReset
    rw [inPlace]
    exact open_refuses isOpen noEntry noReset
  case entries =>
    intro flags
    rw [inPlace]
    refine ⟨entry_refused_iff _ flags, fun closed => ?_⟩
    simp only [perform, putControl, closed, perform.settle]

-- The last value is too large, and the fields before it are already in the buffer; the block that is
-- open behind it takes one more entry and refuses all else.
theorem large_value_taken_back :
    let value : Call := .append (.streamData ⟨3⟩ ⟨0⟩ .byte [1, 2, 300])
    let before : List Call := [.append .pause]
    let filling : List Call := before ++ [value, .beginControl ⟨3⟩ 2, .putControl ⟨1⟩]
    ((Filling.putFields (.streamData ⟨3⟩ ⟨0⟩ .byte [1, 2, 300])).fill [0x82, 5] =
      (.error (.valueOutOfRange 300 .byte), [0x82, 5, 3, 0, 0, 0, 0, 0, 3, 1, 2])) ∧
    ((runInPlace before).performInPlace value).2 = runInPlace before ∧
    (runInPlace filling).openControl = some ⟨⟨3⟩, 1⟩ ∧
    (runInPlace filling).performInPlace .finish =
      (.error (.incompleteControl ⟨3⟩ 1), runInPlace filling) :=
  ⟨rfl, (failed_call_changes_nothing _ _).unchanged (.valueOutOfRange 300 .byte) rfl, rfl,
    (failed_call_changes_nothing _ .finish).incomplete ⟨⟨3⟩, 1⟩ rfl nofun nofun⟩

end FrameBuilder

end HeapScope
