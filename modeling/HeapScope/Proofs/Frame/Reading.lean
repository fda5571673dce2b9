import HeapScope.Frame.Source
import HeapScope.Proofs.Frame.Splitting
import HeapScope.Proofs.Wire.Fields

namespace HeapScope

open FrameSplitter

namespace ByteSource

structure Delivers (source : ByteSource) (bytes : Bytes) : Prop where
  flows : ∀ piece ∈ source.pieces, piece ≠ []
  whole : source.pieces.flatten = bytes

def afterFrames (limit : Nat) : Nat → ByteSource → ByteSource
  | 0, source => source
  | n + 1, source => afterFrames limit n (source.readFrame limit).2

theorem take_exactly_flows (ending : Transport) (n : Nat) (pieces : List Bytes)
    (flows : ∀ piece ∈ pieces, piece ≠ []) (enough : n ≤ pieces.flatten.length) :
    ∃ taken rest, takeExactly ending n pieces = (.ok taken, rest) ∧ ∀ piece ∈ rest, piece ≠ [] := by
  induction pieces generalizing n with
  | nil =>
    cases n with
    | zero => exact ⟨[], [], rfl, flows⟩
    | succ n => exact absurd enough (Nat.not_succ_le_zero n)
  | cons piece pieces ih =>
    cases n with
    | zero => exact ⟨[], piece :: pieces, rfl, flows⟩
    | succ n =>
      have full : ¬piece.isEmpty = true := by
        rw [List.isEmpty_iff]
        exact flows piece List.mem_cons_self
      have others : ∀ other ∈ pieces, other ≠ [] := fun other member =>
        flows other (List.mem_cons_of_mem piece member)
      rw [List.flatten_cons, List.length_append] at enough
      rw [takeExactly, if_neg full]
      by_cases short : piece.length ≤ n + 1
      · obtain ⟨taken, rest, more, flowing⟩ := ih (n + 1 - piece.length) others (by omega)
        rw [if_pos short, more]
        exact ⟨piece ++ taken, rest, rfl, flowing⟩
      · rw [if_neg short]
        refine ⟨_, _, rfl, ?_⟩
        intro other member
        rcases List.mem_cons.mp member with rfl | member
        · have left : (piece.drop (n + 1)).length ≠ 0 := by
            rw [List.length_drop]
            omega
          exact fun nothing => left (congrArg List.length nothing)
        · exact others other member

variable {source : ByteSource} {limit : Nat}

theorem take_delivers {front back : Bytes} (delivers : source.Delivers (front ++ back)) :
    ∃ rest : ByteSource, source.take front.length = (.ok front, rest) ∧ rest.Delivers back := by
  have enough : front.length ≤ source.pieces.flatten.length := by
    rw [delivers.whole, List.length_append]
    exact Nat.le_add_right _ _
  obtain ⟨taken, pieces, reached, flows⟩ :=
    take_exactly_flows source.ending front.length source.pieces delivers.flows enough
  obtain ⟨cut, length⟩ := take_exactly_ok reached
  obtain ⟨rfl, rest⟩ := List.append_inj (delivers.whole.symm.trans cut) length.symm
  refine ⟨{ source with pieces }, ?_, flows, rest.symm⟩
  rw [take, reached]

theorem read_takes {payload rest : Bytes} (delivers : source.Delivers (frameOf payload ++ rest))
    (fits : FitsFrame limit payload) :
    ∃ next : ByteSource, source.readFrame limit = ((Wire.decode payload).map some, next) ∧
      next.Delivers rest := by
  have announced := Bytes.number_big_endian_of_lt 4 payload.length fits.2
  have header := Bytes.big_endian_length 4 payload.length
  rw [frameOf, List.append_assoc] at delivers
  obtain ⟨behind, headerTaken, behindDelivers⟩ := take_delivers delivers
  obtain ⟨next, payloadTaken, nextDelivers⟩ := take_delivers behindDelivers
  rw [header] at headerTaken
  refine ⟨next, ?_, nextDelivers⟩
  simp only [readFrame, headerTaken, announced, if_neg (Nat.not_lt.mpr fits.1), payloadTaken]

theorem read_refuses {header rest : Bytes} (delivers : source.Delivers (header ++ rest))
    (whole : header.length = 4) (long : limit < Bytes.number header) :
    (source.readFrame limit).1 = .error (.frameTooLarge (Bytes.number header) limit) := by
  obtain ⟨behind, headerTaken, _⟩ := take_delivers delivers
  rw [whole] at headerTaken
  simp only [readFrame, headerTaken, if_pos long]

theorem read_cases {bytes : Bytes} (delivers : source.Delivers bytes) (limit : Nat) :
    drain ⟨limit, bytes⟩ = [] ∨
    (∃ length, drain ⟨limit, bytes⟩ = [.error (.frameTooLarge length limit)] ∧
      (source.readFrame limit).1 = .error (.frameTooLarge length limit)) ∨
    (∃ payload rest next, FitsFrame limit payload ∧ bytes = frameOf payload ++ rest ∧
      drain ⟨limit, bytes⟩ = Wire.decode payload :: drain ⟨limit, rest⟩ ∧
      source.readFrame limit = ((Wire.decode payload).map some, next) ∧ next.Delivers rest) := by
  obtain waits | ⟨_, header, rest, whole, long, same⟩ | ⟨_, payload, rest, fits, same⟩ :=
    next_cases ⟨limit, bytes⟩
  · exact .inl (drain_waits _ (congrArg Prod.fst waits))
  · cases same
    exact .inr (.inl ⟨_, drain_refuses limit header rest whole long, read_refuses delivers whole long⟩)
  · cases same
    obtain ⟨next, read, behind⟩ := read_takes delivers fits
    exact .inr (.inr ⟨payload, rest, next, fits, rfl, drain_takes limit payload rest fits, read, behind⟩)

def HasRead (source : ByteSource) (limit : Nat) (bytes : Bytes) (results : List Result) : Prop :=
  ∃ (payloads : List Bytes) (rest : Bytes), (∀ payload ∈ payloads, FitsFrame limit payload) ∧
    payloads.map Wire.decode = results ∧ bytes = payloads.flatMap frameOf ++ rest ∧
    source.Delivers rest

theorem has_read_cons {payload rest : Bytes} {results : List Result} (fits : FitsFrame limit payload)
    (read : source.HasRead limit rest results) :
    source.HasRead limit (frameOf payload ++ rest) (Wire.decode payload :: results) := by
  obtain ⟨payloads, left, fit, decoded, cut, delivers⟩ := read
  refine ⟨payload :: payloads, left, ?_, congrArg _ decoded, ?_, delivers⟩
  · intro other member
    rcases List.mem_cons.mp member with rfl | member
    · exact fits
    · exact fit other member
  · rw [List.flatMap_cons, List.append_assoc, ← cut]

theorem reads_drain (number : Nat) {bytes : Bytes} (delivers : source.Delivers bytes) {result : Result}
    (told : (drain ⟨limit, bytes⟩)[number]? = some result) :
    result? ((source.afterFrames limit number).readFrame limit).1 = some result ∧
    (isRefusal result = false → (source.afterFrames limit (number + 1)).HasRead limit bytes
      ((drain ⟨limit, bytes⟩).take (number + 1))) := by
  induction number generalizing source bytes with
  | zero =>
    obtain none | ⟨length, refused, answer⟩ | ⟨payload, rest, next, fits, rfl, taken, read, behind⟩ :=
      read_cases delivers limit
    · rw [none] at told
      cases told
    · rw [refused] at told
      cases told
      rw [afterFrames, answer]
      exact ⟨rfl, fun kept => by cases kept⟩
    · rw [taken] at told ⊢
      cases told
      simp only [afterFrames, read]
      refine ⟨result_of_takes _, fun _ => has_read_cons fits ?_⟩
      exact ⟨[], rest, fun _ member => (List.not_mem_nil member).elim, rfl, rfl, behind⟩
  | succ number ih =>
    obtain none | ⟨length, refused, answer⟩ | ⟨payload, rest, next, fits, rfl, taken, read, behind⟩ :=
      read_cases delivers limit
    · rw [none] at told
      cases told
    · rw [refused] at told
      cases told
    · rw [taken] at told ⊢
      have step (n : Nat) : source.afterFrames limit (n + 1) = next.afterFrames limit n := by
        rw [afterFrames, read]
      obtain ⟨same, consumed⟩ := ih behind told
      rw [step, step]
      exact ⟨same, fun kept => has_read_cons fits (consumed kept)⟩

theorem frames_read_as_split (limit : Nat) (bytes : Bytes) (source : ByteSource)
    (delivers : source.Delivers bytes) (calls : List Call) (same : fed calls = bytes) (number : Nat)
    (result : Result)
    (told : (upToRefusal (answers (ofLimit limit) calls))[number]? = some result) :
    result? ((source.afterFrames limit number).readFrame limit).1 = some result ∧
    (isRefusal result = false → (source.afterFrames limit (number + 1)).HasRead limit bytes
      ((upToRefusal (answers (ofLimit limit) calls)).take (number + 1))) := by
  have front : upToRefusal (answers (ofLimit limit) calls) <+: drain ⟨limit, bytes⟩ := by
    have fed : (ofLimit limit).feed (fed calls) = ⟨limit, bytes⟩ := by rw [same]; rfl
    rcases answers_drain (ofLimit limit) calls with ⟨_, all⟩ | ⟨_, all⟩
    · exact (fed ▸ all) ▸ List.prefix_rfl
    · rw [← fed, ← all]
      exact List.prefix_append _ _
  obtain ⟨inside, _⟩ := List.getElem?_eq_some_iff.mp told
  obtain ⟨more, cut⟩ := front
  have drained : (drain ⟨limit, bytes⟩)[number]? = some result := by
    rw [← cut, List.getElem?_append_left inside]
    exact told
  have read := reads_drain number delivers drained
  rwa [← cut, List.take_append_of_le_length inside] at read

-- A frame comes in three reads, a bad one in the third of them and the next, and the last is too long.
theorem short_reads_agree :
    let source : ByteSource := ⟨[[0, 0], [0], [1, 0x81, 0, 0, 0, 1], [0xff, 0], [0, 0, 9]], .endOfData⟩
    let bytes : Bytes := [0, 0, 0, 1, 0x81, 0, 0, 0, 1, 0xff, 0, 0, 0, 9]
    let calls : List Call := [.feed bytes, .next, .next, .next]
    let bad := Wire.decode [0xff]
    source.Delivers bytes ∧ fed calls = bytes ∧
    (upToRefusal (answers (ofLimit 4) calls))[1]? = some bad ∧ isRefusal bad = false ∧
    result? ((source.afterFrames 4 1).readFrame 4).1 = some bad ∧
    (source.afterFrames 4 2).HasRead 4 bytes [.ok [.play], bad] := by
  intro source bytes calls bad
  have delivers : source.Delivers bytes := ⟨by decide, rfl⟩
  have split : upToRefusal (answers (ofLimit 4) calls) =
      [.ok [.play], bad, .error (.frameTooLarge 9 4)] := by
    have fed : (ofLimit 4).feed bytes =
        ⟨4, frameOf [0x81] ++ (frameOf [0xff] ++ ([0, 0, 0, 9] ++ []))⟩ := by decide
    have play : Wire.decode [0x81] = .ok [.play] := Wire.except_ok_of_option (by decide +kernel)
    have first := next_takes 4 [0x81] (frameOf [0xff] ++ ([0, 0, 0, 9] ++ [])) ⟨by decide, by decide⟩
    have second := next_takes 4 [0xff] ([0, 0, 0, 9] ++ []) ⟨by decide, by decide⟩
    have third := next_refuses 4 [0, 0, 0, 9] [] rfl (by decide)
    rw [answers_feed, fed, answers_next, first, result_of_takes, answers_next, second,
      result_of_takes, answers_next, third, play]
    simp only [Option.toList_some, List.singleton_append, upToRefusal, decode_not_refusal]
    rfl
  have told : (upToRefusal (answers (ofLimit 4) calls))[1]? = some bad := by rw [split]; rfl
  have kept : isRefusal bad = false := decode_not_refusal [0xff]
  obtain ⟨answer, read⟩ := frames_read_as_split 4 bytes source delivers calls rfl 1 bad told
  rw [split] at read
  exact ⟨delivers, rfl, told, kept, answer, read kept⟩

end ByteSource

end HeapScope
