import HeapScope.Frame.Splitter

/- A splitter and the byte stream it was fed, however that was cut. One call for the next frame has three
   outcomes (`next_cases`): it waits, it refuses a frame that is too long and keeps it, or it takes away a
   whole frame and answers what its payload reads as. The last two do not depend on bytes that arrive
   later, and so the answers of a run are the front of what one piece gives. -/
namespace HeapScope

def frameOf (payload : Bytes) : Bytes := Bytes.bigEndian 4 payload.length ++ payload

theorem frame_of_length (payload : Bytes) : (frameOf payload).length = 4 + payload.length := by
  rw [frameOf, List.length_append, Bytes.big_endian_length]

def FitsFrame (limit : Nat) (payload : Bytes) : Prop :=
  payload.length ≤ limit ∧ payload.length < 2 ^ 32

namespace FrameSplitter

abbrev Result := Except Error (List Command)

def result? : Except Error (Option (List Command)) → Option Result
  | .ok none => none
  | .ok (some commands) => some (.ok commands)
  | .error error => some (.error error)

def isRefusal : Result → Bool
  | .error (.frameTooLarge _ _) => true
  | _ => false

def upToRefusal : List Result → List Result
  | [] => []
  | result :: results => if isRefusal result then [result] else result :: upToRefusal results

def fed : List Call → Bytes
  | [] => []
  | .feed bytes :: calls => bytes ++ fed calls
  | .next :: calls => fed calls

def run (splitter : FrameSplitter) (calls : List Call) : FrameSplitter :=
  calls.foldl (fun splitter call => (splitter.perform call).2) splitter

def answers (splitter : FrameSplitter) : List Call → List Result
  | [] => []
  | call :: calls =>
    ((splitter.perform call).1.bind result?).toList ++ answers (splitter.perform call).2 calls

theorem next_waits (splitter : FrameSplitter) (short : splitter.buffered.length < 4) :
    splitter.next = (.ok none, splitter) := by
  have header : (splitter.buffered.take 4).length < 4 := by
    rw [List.length_take]
    omega
  rw [next, if_pos header]

theorem next_refuses (limit : Nat) (header rest : Bytes) (whole : header.length = 4)
    (long : limit < Bytes.number header) :
    (⟨limit, header ++ rest⟩ : FrameSplitter).next =
      (.error (.frameTooLarge (Bytes.number header) limit), ⟨limit, header ++ rest⟩) := by
  have front : (header ++ rest).take 4 = header := List.take_left' whole
  simp only [next, front, whole, Nat.lt_irrefl, if_false, if_pos long]

theorem next_takes (limit : Nat) (payload rest : Bytes) (fits : FitsFrame limit payload) :
    (⟨limit, frameOf payload ++ rest⟩ : FrameSplitter).next =
      ((Wire.decode payload).map some, ⟨limit, rest⟩) := by
  have whole := Bytes.big_endian_length 4 payload.length
  have announced := Bytes.number_big_endian_of_lt 4 payload.length fits.2
  have front : (frameOf payload ++ rest).take 4 = Bytes.bigEndian 4 payload.length := by
    rw [frameOf, List.append_assoc]
    exact List.take_left' whole
  have body : (frameOf payload ++ rest).drop 4 = payload ++ rest := by
    rw [frameOf, List.append_assoc]
    exact List.drop_left' whole
  have there : ¬(payload ++ rest).length < payload.length := by
    rw [List.length_append]
    omega
  simp only [next, front, body, whole, announced, Nat.lt_irrefl, if_false,
    if_neg (Nat.not_lt.mpr fits.1), if_neg there, List.take_left, List.drop_left]

theorem next_cases (splitter : FrameSplitter) :
    splitter.next = (.ok none, splitter) ∨
    (∃ limit header rest, header.length = 4 ∧ limit < Bytes.number header ∧
      splitter = ⟨limit, header ++ rest⟩) ∨
    (∃ limit payload rest, FitsFrame limit payload ∧ splitter = ⟨limit, frameOf payload ++ rest⟩) := by
  obtain ⟨limit, buffered⟩ := splitter
  by_cases short : buffered.length < 4
  · exact .inl (next_waits _ short)
  have whole : (buffered.take 4).length = 4 := by
    rw [List.length_take]
    omega
  by_cases long : limit < Bytes.number (buffered.take 4)
  · have cut : buffered = buffered.take 4 ++ buffered.drop 4 := (List.take_append_drop 4 _).symm
    exact .inr (.inl ⟨limit, buffered.take 4, buffered.drop 4, whole, long, by rw [← cut]⟩)
  by_cases missing : (buffered.drop 4).length < Bytes.number (buffered.take 4)
  · left
    simp only [next, whole, Nat.lt_irrefl, if_false, if_neg long, if_pos missing]
  · right
    right
    have bound := Bytes.number_lt (buffered.take 4)
    have header := Bytes.big_endian_number (buffered.take 4)
    rw [whole] at bound header
    have taken : ((buffered.drop 4).take (Bytes.number (buffered.take 4))).length =
        Bytes.number (buffered.take 4) := by
      rw [List.length_take]
      omega
    refine ⟨limit, (buffered.drop 4).take (Bytes.number (buffered.take 4)),
      (buffered.drop 4).drop (Bytes.number (buffered.take 4)), ⟨?_, ?_⟩, ?_⟩
    · rw [taken]
      exact Nat.not_lt.mp long
    · rw [taken]
      exact bound
    · rw [frameOf, taken, header, List.append_assoc, List.take_append_drop, List.take_append_drop]

theorem result_of_takes (decoded : Result) : result? (decoded.map some) = some decoded := by
  cases decoded <;> rfl

theorem decode_not_refusal (payload : Bytes) : isRefusal (Wire.decode payload) = false := by
  unfold Wire.decode
  split <;> rfl

theorem next_shorter (splitter : FrameSplitter) (result : Result)
    (told : result? splitter.next.1 = some result) (kept : isRefusal result = false) :
    splitter.next.2.buffered.length < splitter.buffered.length := by
  obtain waits | ⟨limit, header, rest, whole, long, rfl⟩ | ⟨limit, payload, rest, fits, rfl⟩ :=
    next_cases splitter
  · rw [waits] at told
    cases told
  · rw [next_refuses limit header rest whole long] at told
    cases told
    cases kept
  · rw [next_takes limit payload rest fits]
    simp only [List.length_append, frame_of_length]
    omega

def drain (splitter : FrameSplitter) : List Result :=
  match told : result? splitter.next.1 with
  | none => []
  | some result =>
    if refused : isRefusal result = true then [result]
    else
      have : splitter.next.2.buffered.length < splitter.buffered.length :=
        next_shorter splitter result told (Bool.eq_false_iff.mpr refused)
      result :: drain splitter.next.2
termination_by splitter.buffered.length

theorem drain_waits (splitter : FrameSplitter) (waits : splitter.next.1 = .ok none) :
    drain splitter = [] := by
  have told : result? splitter.next.1 = none := by rw [waits, result?]
  rw [drain]
  split
  · rfl
  · rename_i result other
    rw [told] at other
    cases other

theorem drain_refuses (limit : Nat) (header rest : Bytes) (whole : header.length = 4)
    (long : limit < Bytes.number header) :
    drain ⟨limit, header ++ rest⟩ = [.error (.frameTooLarge (Bytes.number header) limit)] := by
  have refused := next_refuses limit header rest whole long
  rw [drain]
  split
  · rename_i other
    rw [refused] at other
    cases other
  · rename_i result told
    rw [refused] at told
    cases told
    rfl

theorem drain_takes (limit : Nat) (payload rest : Bytes) (fits : FitsFrame limit payload) :
    drain ⟨limit, frameOf payload ++ rest⟩ = Wire.decode payload :: drain ⟨limit, rest⟩ := by
  have taken := next_takes limit payload rest fits
  rw [drain]
  split
  · rename_i other
    rw [taken, result_of_takes] at other
    cases other
  · rename_i result told
    rw [taken, result_of_takes] at told
    cases told
    simp only [decode_not_refusal, Bool.false_eq_true, dif_neg, not_false_iff, taken]

theorem drain_takes_next {splitter after : FrameSplitter} {commands : List Command}
    (answer : splitter.next = (.ok (some commands), after)) :
    drain splitter = .ok commands :: drain after := by
  obtain waits | ⟨limit, header, rest, whole, long, rfl⟩ | ⟨limit, payload, rest, fits, rfl⟩ :=
    next_cases splitter
  · rw [waits] at answer
    cases answer
  · rw [next_refuses limit header rest whole long] at answer
    cases answer
  · rw [next_takes limit payload rest fits] at answer
    rw [drain_takes limit payload rest fits]
    cases decoded : Wire.decode payload with
    | error error =>
      rw [decoded] at answer
      cases answer
    | ok found =>
      rw [decoded] at answer
      cases answer
      rfl

theorem drain_frames (limit : Nat) (payloads : List Bytes) (rest : Bytes)
    (fit : ∀ payload ∈ payloads, FitsFrame limit payload) :
    drain ⟨limit, payloads.flatMap frameOf ++ rest⟩ =
      payloads.map Wire.decode ++ drain ⟨limit, rest⟩ := by
  induction payloads with
  | nil => rfl
  | cons payload payloads ih =>
    have others : ∀ payload ∈ payloads, FitsFrame limit payload := fun other member =>
      fit other (List.mem_cons_of_mem payload member)
    rw [List.flatMap_cons, List.append_assoc, drain_takes limit payload _ (fit payload List.mem_cons_self),
      ih others]
    rfl

theorem drain_front (splitter : FrameSplitter) (more : Bytes) :
    drain splitter <+: drain (splitter.feed more) := by
  induction count : splitter.buffered.length using Nat.strongRecOn generalizing splitter with
  | ind total ih =>
    obtain waits | ⟨limit, header, rest, whole, long, rfl⟩ | ⟨limit, payload, rest, fits, rfl⟩ :=
      next_cases splitter
    · rw [drain_waits splitter (by rw [waits])]
      exact List.nil_prefix
    · have again := drain_refuses limit header (rest ++ more) whole long
      rw [← List.append_assoc] at again
      exact ((drain_refuses limit header rest whole long).trans again.symm) ▸ List.prefix_rfl
    · have shorter : rest.length < total := by
        rw [← count, List.length_append, frame_of_length]
        omega
      rw [feed, List.append_assoc, drain_takes limit payload _ fits, drain_takes limit payload _ fits,
        List.prefix_cons_inj]
      exact ih rest.length shorter ⟨limit, rest⟩ rfl

theorem drain_unrefused (limit : Nat) (payloads : List Bytes) (bytes : Bytes)
    (fit : ∀ payload ∈ payloads, FitsFrame limit payload) (front : bytes <+: payloads.flatMap frameOf) :
    ∀ result ∈ drain ⟨limit, bytes⟩, isRefusal result = false := by
  obtain ⟨more, joined⟩ := front
  have all := drain_frames limit payloads [] fit
  have done : drain ⟨limit, []⟩ = [] := drain_waits _ rfl
  rw [done, List.append_nil, List.append_nil, ← joined] at all
  intro result member
  have answered : result ∈ payloads.map Wire.decode :=
    all ▸ (drain_front ⟨limit, bytes⟩ more).subset member
  obtain ⟨payload, _, rfl⟩ := List.mem_map.mp answered
  exact decode_not_refusal payload

theorem feed_nil (splitter : FrameSplitter) : splitter.feed [] = splitter := by
  rw [feed, List.append_nil]

theorem feed_append (splitter : FrameSplitter) (front back : Bytes) :
    (splitter.feed front).feed back = splitter.feed (front ++ back) := by
  simp only [feed, List.append_assoc]

theorem answers_feed (splitter : FrameSplitter) (bytes : Bytes) (calls : List Call) :
    answers splitter (.feed bytes :: calls) = answers (splitter.feed bytes) calls := rfl

theorem answers_next (splitter : FrameSplitter) (calls : List Call) :
    answers splitter (.next :: calls) =
      (result? splitter.next.1).toList ++ answers splitter.next.2 calls := rfl

-- Either a frame has been refused, and the results up to that are all there are of the stream, or
-- none has and the rest of the results is what the splitter still holds.
theorem answers_drain (splitter : FrameSplitter) (calls : List Call) :
    (∃ result ∈ upToRefusal (answers splitter calls), isRefusal result = true) ∧
        upToRefusal (answers splitter calls) = drain (splitter.feed (fed calls)) ∨
      (∀ result ∈ upToRefusal (answers splitter calls), isRefusal result = false) ∧
        upToRefusal (answers splitter calls) ++ drain (run splitter calls) =
          drain (splitter.feed (fed calls)) := by
  induction calls generalizing splitter with
  | nil =>
    right
    rw [fed, feed_nil]
    exact ⟨fun result member => absurd member List.not_mem_nil, rfl⟩
  | cons call calls ih =>
    cases call with
    | feed bytes =>
      rw [answers_feed, fed, ← feed_append]
      exact ih (splitter.feed bytes)
    | next =>
      rw [answers_next, fed]
      change _ ∨ _ ∧ _ ++ drain (run splitter.next.2 calls) = _
      obtain waits | ⟨limit, header, rest, whole, long, rfl⟩ | ⟨limit, payload, rest, fits, rfl⟩ :=
        next_cases splitter
      · rw [waits]
        exact ih splitter
      · left
        rw [next_refuses limit header rest whole long, feed]
        dsimp only
        rw [List.append_assoc, drain_refuses limit header _ whole long]
        exact ⟨⟨_, List.mem_singleton.mpr rfl, rfl⟩, rfl⟩
      · have more := ih ⟨limit, rest⟩
        rw [next_takes limit payload rest fits, result_of_takes, feed]
        dsimp only
        rw [List.append_assoc, drain_takes limit payload _ fits, Option.toList_some,
          List.singleton_append, upToRefusal, decode_not_refusal, if_neg Bool.false_ne_true]
        rcases more with ⟨⟨result, member, refused⟩, all⟩ | ⟨none, all⟩
        · exact .inl ⟨⟨result, List.mem_cons_of_mem _ member, refused⟩, congrArg _ all⟩
        · refine .inr ⟨fun result member => ?_, congrArg _ all⟩
          rcases List.mem_cons.mp member with rfl | member
          · exact decode_not_refusal payload
          · exact none result member

theorem answers_cut (splitter : FrameSplitter) (calls : List Call) :
    ∃ payloads : List Bytes, (∀ payload ∈ payloads, FitsFrame splitter.limit payload) ∧
      splitter.buffered ++ fed calls = payloads.flatMap frameOf ++ (run splitter calls).buffered ∧
      (answers splitter calls).filter (!isRefusal ·) = payloads.map Wire.decode := by
  induction calls generalizing splitter with
  | nil => exact ⟨[], fun payload member => absurd member List.not_mem_nil, List.append_nil _, rfl⟩
  | cons call calls ih =>
    cases call with
    | feed bytes =>
      obtain ⟨payloads, fit, cut, results⟩ := ih (splitter.feed bytes)
      rw [answers_feed, fed, ← List.append_assoc]
      exact ⟨payloads, fit, cut, results⟩
    | next =>
      rw [answers_next, fed]
      obtain waits | ⟨limit, header, rest, whole, long, rfl⟩ | ⟨limit, payload, rest, fits, rfl⟩ :=
        next_cases splitter
      · obtain ⟨payloads, fit, cut, results⟩ := ih splitter
        rw [waits]
        refine ⟨payloads, fit, ?_, results⟩
        simpa only [run, List.foldl_cons, perform, waits] using cut
      · obtain ⟨payloads, fit, cut, results⟩ := ih ⟨limit, header ++ rest⟩
        have refused := next_refuses limit header rest whole long
        rw [refused]
        refine ⟨payloads, fit, ?_, results⟩
        simpa only [run, List.foldl_cons, perform, refused] using cut
      · obtain ⟨payloads, fit, cut, results⟩ := ih ⟨limit, rest⟩
        have taken := next_takes limit payload rest fits
        rw [taken, result_of_takes, Option.toList_some, List.singleton_append]
        refine ⟨payload :: payloads, ?_, ?_, ?_⟩
        · intro other member
          rcases List.mem_cons.mp member with rfl | member
          · exact fits
          · exact fit other member
        · simpa only [run, List.foldl_cons, perform, taken, List.flatMap_cons, List.append_assoc,
            List.append_cancel_left_eq] using cut
        · rw [List.filter_cons_of_pos (by rw [decode_not_refusal]; rfl), results, List.map_cons]

theorem run_refused (limit : Nat) (header rest : Bytes) (whole : header.length = 4)
    (long : limit < Bytes.number header) (calls : List Call) :
    run ⟨limit, header ++ rest⟩ calls = ⟨limit, header ++ (rest ++ fed calls)⟩ := by
  induction calls generalizing rest with
  | nil => rw [fed, List.append_nil, run, List.foldl_nil]
  | cons call calls ih =>
    cases call with
    | feed bytes =>
      have more := ih (rest ++ bytes)
      simpa only [run, List.foldl_cons, perform, feed, fed, List.append_assoc] using more
    | next =>
      have more := ih rest
      simpa only [run, List.foldl_cons, perform, next_refuses limit header rest whole long, fed] using more

theorem refused_forever (splitter : FrameSplitter) (length limit : Nat)
    (refused : splitter.next.1 = .error (.frameTooLarge length limit)) (later : List Call) :
    (run splitter later).next.1 = .error (.frameTooLarge length limit) := by
  obtain waits | ⟨limit, header, rest, whole, long, rfl⟩ | ⟨limit, payload, rest, fits, rfl⟩ :=
    next_cases splitter
  · rw [waits] at refused
    cases refused
  · rw [next_refuses limit header rest whole long] at refused
    rw [run_refused limit header rest whole long, next_refuses limit header _ whole long]
    exact refused
  · have told := congrArg result? refused
    rw [next_takes limit payload rest fits, result_of_takes] at told
    have kept := decode_not_refusal payload
    rw [Option.some.inj told] at kept
    cases kept

def framesLength : List Bytes → Nat
  | [] => 0
  | payload :: payloads => 4 + payload.length + framesLength payloads

theorem frames_length (payloads : List Bytes) :
    (payloads.flatMap frameOf).length = framesLength payloads := by
  induction payloads with
  | nil => rfl
  | cons payload payloads ih =>
    rw [List.flatMap_cons, List.length_append, frame_of_length, ih, framesLength]

structure TakesAway (limit : Nat) (calls : List Call) (payloads : List Bytes) : Prop where
  fit : ∀ payload ∈ payloads, FitsFrame limit payload
  told : (answers (ofLimit limit) calls).filter (!isRefusal ·) = payloads.map Wire.decode
  bytes : fed calls = payloads.flatMap frameOf ++ (run (ofLimit limit) calls).buffered
  counted : (fed calls).length = framesLength payloads + (run (ofLimit limit) calls).buffered.length

structure SplitsAlike (limit : Nat) (calls : List Call) : Prop where
  front : upToRefusal (answers (ofLimit limit) calls) <+: drain ((ofLimit limit).feed (fed calls))
  whole : (run (ofLimit limit) calls).next.1 = .ok none ∨
      (∃ result ∈ upToRefusal (answers (ofLimit limit) calls), isRefusal result = true) →
    upToRefusal (answers (ofLimit limit) calls) = drain ((ofLimit limit).feed (fed calls))
  taken : ∃ payloads, TakesAway limit calls payloads
  spared : ∀ (before : List Bytes) (payload rest : Bytes) (reason : String),
    (∀ earlier ∈ before, FitsFrame limit earlier) → FitsFrame limit payload →
    Wire.decode payload = .error (.malformed reason) →
    (⟨limit, frameOf payload ++ rest⟩ : FrameSplitter).next =
      (.error (.malformed reason), ⟨limit, rest⟩) ∧
    drain ⟨limit, before.flatMap frameOf ++ (frameOf payload ++ rest)⟩ =
      before.map Wire.decode ++ .error (.malformed reason) :: drain ⟨limit, rest⟩
  stuck : ∀ length, (run (ofLimit limit) calls).next.1 = .error (.frameTooLarge length limit) →
    ∀ later, (run (run (ofLimit limit) calls) later).next.1 = .error (.frameTooLarge length limit)

theorem answers_of_any_cut (limit : Nat) (calls : List Call) : SplitsAlike limit calls := by
  refine ⟨?front, ?whole, ?taken, ?spared, ?stuck⟩
  case front =>
    rcases answers_drain (ofLimit limit) calls with ⟨_, all⟩ | ⟨_, all⟩
    · exact ⟨[], (List.append_nil _).trans all⟩
    · exact ⟨_, all⟩
  case whole =>
    rintro finished
    rcases answers_drain (ofLimit limit) calls with ⟨_, all⟩ | ⟨none, all⟩
    · exact all
    · rcases finished with waits | ⟨result, member, refused⟩
      · rw [← all, drain_waits _ waits, List.append_nil]
      · rw [none result member] at refused
        cases refused
  case taken =>
    obtain ⟨payloads, fit, cut, results⟩ := answers_cut (ofLimit limit) calls
    have bytes : fed calls = payloads.flatMap frameOf ++ (run (ofLimit limit) calls).buffered := cut
    refine ⟨payloads, fit, results, bytes, ?_⟩
    rw [← frames_length, ← List.length_append, ← bytes]
  case spared =>
    intro before payload rest reason earlierFit fits malformed
    have taken := next_takes limit payload rest fits
    rw [drain_frames limit before _ earlierFit, drain_takes limit payload rest fits, malformed]
    rw [malformed] at taken
    exact ⟨taken, rfl⟩
  case stuck =>
    intro length refused
    exact refused_forever _ length limit refused

end FrameSplitter

end HeapScope
