import HeapScope.Proofs.Frame.Reading
import HeapScope.Proofs.Session.Replay

/- How a stream ends for the one who reads it. The data may end between two frames, inside a header or
   inside a payload. A read fails in the last case only: a header that is not complete counts as the end
   of the stream (`read_reads`). -/
namespace HeapScope

namespace ByteSource

structure RunsOut (source : ByteSource) (bytes : Bytes) : Prop extends source.Delivers bytes where
  ends : source.ending = .endOfData

def EndsInPayload (limit : Nat) (bytes : Bytes) : Prop :=
  4 ≤ bytes.length ∧ Bytes.number (bytes.take 4) ≤ limit ∧
    bytes.length < 4 + Bytes.number (bytes.take 4)

inductive Reads (limit : Nat) : Bytes → Except Error (Option (List Command)) → Bytes → Prop where
  | ends {bytes : Bytes} (few : bytes.length < 4) : Reads limit bytes (.ok none) []
  | refuses {header rest : Bytes} (whole : header.length = 4) (long : limit < Bytes.number header) :
      Reads limit (header ++ rest) (.error (.frameTooLarge (Bytes.number header) limit)) rest
  | breaks {bytes : Bytes} (inside : EndsInPayload limit bytes) :
      Reads limit bytes (.error (.transport .endOfData)) []
  | takes {payload rest : Bytes} (fits : FitsFrame limit payload) :
      Reads limit (frameOf payload ++ rest) ((Wire.decode payload).map some) rest

theorem take_exactly_short (ending : Transport) (n : Nat) (pieces : List Bytes)
    (flows : ∀ piece ∈ pieces, piece ≠ []) (short : pieces.flatten.length < n) :
    takeExactly ending n pieces = (.error ending, []) := by
  induction pieces generalizing n with
  | nil =>
    cases n with
    | zero => exact absurd short (Nat.not_lt_zero _)
    | succ n => rfl
  | cons piece pieces ih =>
    cases n with
    | zero => exact absurd short (Nat.not_lt_zero _)
    | succ n =>
      have full : ¬piece.isEmpty = true := by
        rw [List.isEmpty_iff]
        exact flows piece List.mem_cons_self
      have others : ∀ other ∈ pieces, other ≠ [] := fun other member =>
        flows other (List.mem_cons_of_mem piece member)
      rw [List.flatten_cons, List.length_append] at short
      have fits : piece.length ≤ n + 1 := by omega
      rw [takeExactly, if_neg full, if_pos fits, ih (n + 1 - piece.length) others (by omega)]
      rfl

variable {source : ByteSource} {bytes : Bytes} {limit : Nat}

theorem take_short (runsOut : source.RunsOut bytes) {n : Nat} (short : bytes.length < n) :
    ∃ rest : ByteSource, source.take n = (.error .endOfData, rest) ∧ rest.RunsOut [] := by
  have reached := take_exactly_short source.ending n source.pieces runsOut.flows
    (by rw [runsOut.whole]; exact short)
  refine ⟨{ source with pieces := [] }, ?_, ⟨nofun, rfl⟩, runsOut.ends⟩
  rw [take, reached, runsOut.ends]

theorem take_runs_out {front back : Bytes} (runsOut : source.RunsOut (front ++ back)) :
    ∃ rest : ByteSource, source.take front.length = (.ok front, rest) ∧ rest.RunsOut back := by
  obtain ⟨rest, taken, delivers⟩ := take_delivers runsOut.toDelivers
  have ending : (source.take front.length).2.ending = source.ending := rfl
  rw [taken] at ending
  exact ⟨rest, taken, delivers, ending.trans runsOut.ends⟩

theorem read_ends (runsOut : source.RunsOut bytes) (few : bytes.length < 4) (limit : Nat) :
    ∃ next : ByteSource, source.readFrame limit = (.ok none, next) ∧ next.RunsOut [] := by
  obtain ⟨next, short, nothing⟩ := take_short runsOut few
  exact ⟨next, by simp only [readFrame, short], nothing⟩

theorem read_keeps_ending (source : ByteSource) (limit : Nat) :
    (source.readFrame limit).2.ending = source.ending := by
  have kept (source : ByteSource) (n : Nat) : (source.take n).2.ending = source.ending := rfl
  have first := kept source 4
  unfold readFrame
  split
  · rename_i taken
    rw [taken] at first
    exact first
  · rename_i taken
    rw [taken] at first
    exact first
  · rename_i header middle taken
    rw [taken] at first
    have second := kept middle (Bytes.number header)
    dsimp only
    split
    · exact first
    · split
      · rename_i broken
        rw [broken] at second
        exact second.trans first
      · rename_i whole
        rw [whole] at second
        exact second.trans first

theorem read_breaks (runsOut : source.RunsOut bytes) (inside : EndsInPayload limit bytes) :
    ∃ next : ByteSource, source.readFrame limit = (.error (.transport .endOfData), next) ∧
      next.RunsOut [] := by
  obtain ⟨header, fits, few⟩ := inside
  have whole : (bytes.take 4).length = 4 := by
    rw [List.length_take]
    omega
  have left : (bytes.drop 4).length < Bytes.number (bytes.take 4) := by
    rw [List.length_drop]
    omega
  rw [← List.take_append_drop 4 bytes] at runsOut
  obtain ⟨behind, headerTaken, part⟩ := take_runs_out runsOut
  obtain ⟨next, short, nothing⟩ := take_short part left
  rw [whole] at headerTaken
  exact ⟨next, by simp only [readFrame, headerTaken, if_neg (Nat.not_lt.mpr fits), short], nothing⟩

theorem read_turns_away {header rest : Bytes} (runsOut : source.RunsOut (header ++ rest))
    (whole : header.length = 4) (long : limit < Bytes.number header) :
    ∃ next : ByteSource, source.readFrame limit =
      (.error (.frameTooLarge (Bytes.number header) limit), next) ∧ next.RunsOut rest := by
  obtain ⟨next, headerTaken, behind⟩ := take_runs_out runsOut
  rw [whole] at headerTaken
  exact ⟨next, by simp only [readFrame, headerTaken, if_pos long], behind⟩

theorem read_whole {payload rest : Bytes} (runsOut : source.RunsOut (frameOf payload ++ rest))
    (fits : FitsFrame limit payload) :
    ∃ next : ByteSource, source.readFrame limit = ((Wire.decode payload).map some, next) ∧
      next.RunsOut rest := by
  obtain ⟨next, read, delivers⟩ := read_takes runsOut.toDelivers fits
  have ending := source.read_keeps_ending limit
  rw [read] at ending
  exact ⟨next, read, delivers, ending.trans runsOut.ends⟩

theorem read_reads (runsOut : source.RunsOut bytes) (limit : Nat) :
    ∃ answer left next, source.readFrame limit = (answer, next) ∧ Reads limit bytes answer left ∧
      next.RunsOut left := by
  by_cases few : bytes.length < 4
  · obtain ⟨next, read, left⟩ := read_ends runsOut few limit
    exact ⟨_, _, next, read, .ends few, left⟩
  by_cases inside : EndsInPayload limit bytes
  · obtain ⟨next, read, left⟩ := read_breaks runsOut inside
    exact ⟨_, _, next, read, .breaks inside, left⟩
  obtain waits | ⟨_, header, rest, whole, long, same⟩ | ⟨_, payload, rest, fits, same⟩ :=
    FrameSplitter.next_cases ⟨limit, bytes⟩
  · -- A splitter would wait only for one of the two parts that are there.
    exfalso
    have answer := congrArg Prod.fst waits
    have header : ¬(bytes.take 4).length < 4 := by
      rw [List.length_take]
      omega
    by_cases long : limit < Bytes.number (bytes.take 4)
    · simp only [FrameSplitter.next, header, long, if_true, if_false] at answer
      cases answer
    by_cases missing : (bytes.drop 4).length < Bytes.number (bytes.take 4)
    · rw [List.length_drop] at missing
      exact inside ⟨Nat.not_lt.mp few, Nat.not_lt.mp long, by omega⟩
    · simp only [FrameSplitter.next, header, long, missing, if_false] at answer
      cases payload : Wire.decode ((bytes.drop 4).take (Bytes.number (bytes.take 4))) with
      | ok commands => simp [payload, Except.map] at answer
      | error error => simp [payload, Except.map] at answer
  · cases same
    obtain ⟨next, read, left⟩ := read_turns_away runsOut whole long
    exact ⟨_, _, next, read, .refuses whole long, left⟩
  · cases same
    obtain ⟨next, read, left⟩ := read_whole runsOut fits
    exact ⟨_, _, next, read, .takes fits, left⟩

theorem decode_not_transport {payload : Bytes} {error : Error} (bad : Wire.decode payload = .error error) :
    error.isTransport = false := by
  unfold Wire.decode at bad
  split at bad
  · cases bad
  · cases bad
    rfl

theorem frame_header (payload rest : Bytes) (small : payload.length < 2 ^ 32) :
    Bytes.number ((frameOf payload ++ rest).take 4) = payload.length := by
  have front : (frameOf payload ++ rest).take 4 = Bytes.bigEndian 4 payload.length := by
    rw [frameOf, List.append_assoc]
    exact List.take_left' (Bytes.big_endian_length 4 payload.length)
  rw [front, Bytes.number_big_endian_of_lt 4 payload.length small]

variable {answer : Except Error (Option (List Command))} {left : Bytes}

theorem reads_nothing (reads : Reads limit bytes answer left) :
    answer = .ok none ↔ bytes.length < 4 := by
  cases reads with
  | ends few => simp [few]
  | refuses whole long => simp [whole]
  | breaks inside => simp [inside.1]
  | @takes payload _ fits =>
    have long : ¬(frameOf payload ++ left).length < 4 := by
      rw [List.length_append, frame_of_length]
      omega
    cases decoded : Wire.decode payload <;> simp only [Except.map, long, iff_false] <;> nofun

theorem reads_broken (reads : Reads limit bytes answer left) :
    answer = .error (.transport .endOfData) ↔ EndsInPayload limit bytes := by
  cases reads with
  | ends few =>
    have outside : ¬EndsInPayload limit bytes := fun inside => Nat.not_lt.mpr inside.1 few
    simp [outside]
  | @refuses header _ whole long =>
    have outside : ¬EndsInPayload limit (header ++ left) := by
      intro inside
      have fits := inside.2.1
      rw [List.take_left' whole] at fits
      exact Nat.not_lt.mpr fits long
    simp [outside]
  | breaks inside => simp [inside]
  | @takes payload _ fits =>
    have outside : ¬EndsInPayload limit (frameOf payload ++ left) := by
      intro inside
      have short := inside.2.2
      rw [frame_header payload left fits.2, List.length_append, frame_of_length] at short
      omega
    cases decoded : Wire.decode payload with
    | ok commands => simp [Except.map, outside]
    | error error =>
      have apart := decode_not_transport decoded
      have other : error ≠ .transport .endOfData := by
        rintro rfl
        cases apart
      simp [Except.map, outside, other]

theorem after_frames_run_out (runsOut : source.RunsOut bytes) (limit number : Nat) :
    ∃ front left, bytes = front ++ left ∧ (source.afterFrames limit number).RunsOut left := by
  induction number generalizing source bytes with
  | zero => exact ⟨[], bytes, rfl, runsOut⟩
  | succ number ih =>
    obtain ⟨answer, left, next, read, reads, behind⟩ := read_reads runsOut limit
    obtain ⟨front, last, cut, reached⟩ := ih behind
    rw [afterFrames, read]
    cases reads with
    | ends few => exact ⟨bytes ++ front, last, by rw [List.append_assoc, ← cut, List.append_nil], reached⟩
    | @refuses header _ whole long => exact ⟨header ++ front, last, by rw [cut, List.append_assoc], reached⟩
    | breaks inside =>
      exact ⟨bytes ++ front, last, by rw [List.append_assoc, ← cut, List.append_nil], reached⟩
    | @takes payload _ fits =>
      exact ⟨frameOf payload ++ front, last, by rw [cut, List.append_assoc], reached⟩

end ByteSource

namespace Session

open ByteSource

inductive Leads (limit : Nat) : Session → List Bytes → Session → Prop where
  | stays (session : Session) : Leads limit session [] session
  | follows {session next final : Session} {payload : Bytes} {payloads : List Bytes}
      {commands : List Command} (listens : session.shutDown = false) (fits : FitsFrame limit payload)
      (reads : Wire.decode payload = .ok commands) (applies : session.applyAll commands = (.ok (), next))
      (more : Leads limit next payloads final) : Leads limit session (payload :: payloads) final

variable {source : ByteSource} {bytes : Bytes} {limit : Nat}

theorem follow_led (session : Session) (runsOut : source.RunsOut bytes)
    (content : (session.follow source limit).1 = .ok ()) :
    ∃ payloads rest, bytes = payloads.flatMap frameOf ++ rest ∧
      Leads limit session payloads (session.follow source limit).2.1 ∧
      ((session.follow source limit).2.1.shutDown = true ∨ rest.length < 4) := by
  fun_induction Session.follow session source limit generalizing bytes with
  | case1 session source goodbye => exact ⟨[], bytes, rfl, .stays session, .inl goodbye⟩
  | case2 => cases content
  | case3 session source listens next read =>
    obtain ⟨answer, left, after, reached, reads, _⟩ := read_reads runsOut limit
    cases read.symm.trans reached
    exact ⟨[], bytes, rfl, .stays session, .inr ((reads_nothing reads).mp rfl)⟩
  | case4 => cases content
  | case5 session source listens commands next read _ after applied ih =>
    obtain ⟨answer, left, behind, reached, reads, runsOn⟩ := read_reads runsOut limit
    cases read.symm.trans reached
    generalize told : (Except.ok (some commands) : Except Error _) = answer at reads
    cases reads with
    | ends few => cases told
    | refuses whole long => cases told
    | breaks inside => cases told
    | @takes payload rest fits =>
      cases decoded : Wire.decode payload with
      | error error =>
        rw [decoded] at told
        cases told
      | ok found =>
        rw [decoded] at told
        cases told
        obtain ⟨payloads, rest, rfl, leads, ended⟩ := ih runsOn content
        refine ⟨payload :: payloads, rest, ?_, ?_, ended⟩
        · rw [List.flatMap_cons, List.append_assoc]
        · exact .follows (by simpa using listens) fits decoded applied leads

theorem follow_reads {session : Session} {next : ByteSource}
    {answer : Except Error (Option (List Command))} (listens : session.shutDown = false)
    (read : source.readFrame limit = (answer, next)) :
    session.follow source limit =
      match answer with
      | .error error => (.error error, session, next)
      | .ok none => (.ok (), session, next)
      | .ok (some commands) =>
        match session.applyAll commands with
        | (.error error, session) => (.error error, session, next)
        | (.ok (), session) => session.follow next limit := by
  rw [follow, if_neg (by simp [listens])]
  split
  · rename_i failed
    cases read.symm.trans failed
    rfl
  · rename_i ended
    cases read.symm.trans ended
    rfl
  · rename_i more
    cases read.symm.trans more
    rfl

theorem follow_goes_on {session after : Session} {next : ByteSource} {commands : List Command}
    (listens : session.shutDown = false) (read : source.readFrame limit = (.ok (some commands), next))
    (applies : session.applyAll commands = (.ok (), after)) :
    session.follow source limit = after.follow next limit := by
  rw [follow_reads listens read]
  dsimp only
  rw [applies]

theorem leads_followed {session final : Session} {payloads : List Bytes} {rest : Bytes}
    (leads : Leads limit session payloads final)
    (runsOut : source.RunsOut (payloads.flatMap frameOf ++ rest))
    (ended : final.shutDown = true ∨ rest.length < 4) :
    (session.follow source limit).1 = .ok () ∧ (session.follow source limit).2.1 = final := by
  induction leads generalizing source with
  | stays session =>
    by_cases goodbye : session.shutDown = true
    · rw [follow, if_pos goodbye]
      exact ⟨rfl, rfl⟩
    · have few := ended.resolve_left goodbye
      obtain ⟨next, read, _⟩ := read_ends runsOut few limit
      rw [follow_reads (Bool.eq_false_iff.mpr goodbye) read]
      exact ⟨rfl, rfl⟩
  | follows listens fits reads applies more ih =>
    rw [List.flatMap_cons, List.append_assoc] at runsOut
    obtain ⟨next, read, behind⟩ := read_whole runsOut fits
    rw [reads] at read
    rw [follow_goes_on listens read applies]
    exact ih behind ended

theorem stream_ends_without_header (limit : Nat) (bytes : Bytes) (source : ByteSource)
    (runsOut : source.RunsOut bytes) :
    (∀ number, ∃ front left, bytes = front ++ left ∧
      let reader := source.afterFrames limit number
      reader.RunsOut left ∧ ((reader.readFrame limit).1 = .ok none ↔ left.length < 4) ∧
        ((reader.readFrame limit).1 = .error (.transport .endOfData) ↔ EndsInPayload limit left)) ∧
    ∀ session final : Session,
      ((session.follow source limit).1 = .ok () ∧ (session.follow source limit).2.1 = final) ↔
        ∃ payloads rest, bytes = payloads.flatMap frameOf ++ rest ∧ Leads limit session payloads final ∧
          (final.shutDown = true ∨ rest.length < 4) := by
  refine ⟨fun number => ?_, fun session final => ⟨?_, ?_⟩⟩
  · obtain ⟨front, left, cut, reached⟩ := after_frames_run_out runsOut limit number
    obtain ⟨answer, behind, next, read, reads, _⟩ := read_reads reached limit
    refine ⟨front, left, cut, reached, ?_, ?_⟩
    · rw [read]
      exact reads_nothing reads
    · rw [read]
      exact reads_broken reads
  · rintro ⟨content, rfl⟩
    exact follow_led session runsOut content
  · rintro ⟨payloads, rest, rfl, leads, ended⟩
    exact leads_followed leads runsOut ended

-- A goodbye comes in two reads, and the data ends inside the payload of the frame behind it: a session
-- that is new is content, and one more read fails.
theorem broken_payload_noticed :
    let source : ByteSource := ⟨[[0, 0, 0], [1, 0x0b, 0, 0], [0, 9, 0x0b]], .endOfData⟩
    let bytes : Bytes := [0, 0, 0, 1, 0x0b, 0, 0, 0, 9, 0x0b]
    source.RunsOut bytes ∧ EndsInPayload 1024 [0, 0, 0, 9, 0x0b] ∧
    ((source.afterFrames 1024 1).readFrame 1024).1 = .error (.transport .endOfData) ∧
    (Session.start.follow source 1024).1 = .ok () ∧
    (Session.start.follow source 1024).2.1 = { Session.start with shutDown := true } := by
  intro source bytes
  have runsOut : source.RunsOut bytes := ⟨⟨by decide, rfl⟩, rfl⟩
  have goodbye : Wire.decode [0x0b] = .ok [.shutdown] := Wire.except_ok_of_option (by decide +kernel)
  have inside : EndsInPayload 1024 [0, 0, 0, 9, 0x0b] := ⟨by decide, by decide, by decide⟩
  obtain ⟨reads, follows⟩ := stream_ends_without_header 1024 bytes source runsOut
  obtain ⟨front, left, _, reached, _, fails⟩ := reads 1
  obtain rfl : [0, 0, 0, 9, 0x0b] = left := reached.whole
  have leads : Leads 1024 .start [[0x0b]] { Session.start with shutDown := true } :=
    .follows rfl ⟨by decide, by decide⟩ goodbye rfl (.stays _)
  exact ⟨runsOut, inside, fails.mpr inside,
    (follows _ _).mpr ⟨[[0x0b]], [0, 0, 0, 9, 0x0b], rfl, leads, .inl rfl⟩⟩

-- The data ends inside a header, and neither a read nor a session that follows notices.
theorem broken_header_unnoticed :
    let source : ByteSource := ⟨[[0], [0]], .endOfData⟩
    source.RunsOut [0, 0] ∧ (source.readFrame 1024).1 = .ok none ∧
    (Session.start.follow source 1024).1 = .ok () ∧
    ¬∃ payloads : List Bytes, [0, 0] = payloads.flatMap frameOf := by
  intro source
  have runsOut : source.RunsOut [0, 0] := ⟨⟨by decide, rfl⟩, rfl⟩
  have leads : Leads 1024 .start [] .start := .stays .start
  have followed := leads_followed leads runsOut (.inr (by decide))
  refine ⟨runsOut, rfl, followed.1, ?_⟩
  rintro ⟨payloads, cut⟩
  have length := congrArg List.length cut
  cases payloads with
  | nil => cases length
  | cons payload payloads =>
    rw [List.flatMap_cons, List.length_append, frame_of_length] at length
    change 2 = _ at length
    omega

end Session

end HeapScope
