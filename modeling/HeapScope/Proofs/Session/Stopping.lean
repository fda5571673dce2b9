import HeapScope.Proofs.Session.Following
import HeapScope.Proofs.Session.Reception

namespace HeapScope

namespace Session

open ByteSource

structure Heard (session : Session) (frames : List Bytes) (groups : List (List Command))
    (final : Session) : Prop where
  reads : frames.map Wire.decode = groups.map .ok
  applies : session.applyAll groups.flatten = (.ok (), final)
  listens : ∀ number < groups.length, ∀ earlier,
    session.applyAll (groups.take number).flatten = (.ok (), earlier) → earlier.shutDown = false

inductive Stops (session : Session) : List Bytes → Except Error Unit → Session → List Bytes → Prop where
  | goodbye {left : List Bytes} (heard : session.shutDown = true) :
    Stops session left (.ok ()) session left
  | ends (listens : session.shutDown = false) : Stops session [] (.ok ()) session []
  | unreadable {payload : Bytes} {left : List Bytes} {error : Error} (listens : session.shutDown = false)
    (bad : Wire.decode payload = .error error) :
    Stops session (payload :: left) (.error error) session left
  -- The commands in front of the refused one have done their work.
  | refused {payload : Bytes} {left : List Bytes} {error : Error} {front back : List Command}
    {command : Command} {final : Session} (listens : session.shutDown = false)
    (reads : Wire.decode payload = .ok (front ++ command :: back))
    (applies : session.applyAll front = (.ok (), final)) (refuses : final.apply command = .error error) :
    Stops session (payload :: left) (.error error) final left

def Followed (session : Session) (frames : List Bytes) (outcome : Except Error Unit) (final : Session)
    (left : List Bytes) : Prop :=
  ∃ taken next groups middle, frames = taken ++ next ∧ session.Heard taken groups middle ∧
    middle.Stops next outcome final left

variable {session final : Session} {source : ByteSource} {limit : Nat} {frames : List Bytes}

theorem apply_all_refused {front : List Command} (applies : session.applyAll front = (.ok (), final))
    {command : Command} {error : Error} (refuses : final.apply command = .error error)
    (back : List Command) : session.applyAll (front ++ command :: back) = (.error error, final) := by
  induction front generalizing session with
  | nil =>
    cases applies
    rw [List.nil_append, applyAll, refuses]
  | cons first front ih =>
    obtain ⟨next, accepted, behind⟩ := apply_all_cons_ok.mp applies
    rw [List.cons_append, apply_all_cons accepted]
    exact ih behind

theorem refused_among {commands : List Command} {error : Error}
    (failed : session.applyAll commands = (.error error, final)) :
    ∃ front command back, commands = front ++ command :: back ∧
      session.applyAll front = (.ok (), final) ∧ final.apply command = .error error := by
  induction commands generalizing session with
  | nil => cases failed
  | cons command commands ih =>
    cases answer : session.apply command with
    | error other =>
      rw [applyAll, answer] at failed
      cases failed
      exact ⟨[], command, commands, rfl, rfl, answer⟩
    | ok next =>
      rw [apply_all_cons answer] at failed
      obtain ⟨front, refused, back, rfl, applied, refuses⟩ := ih failed
      exact ⟨command :: front, refused, back, rfl, apply_all_cons_ok.mpr ⟨next, answer, applied⟩, refuses⟩

theorem leads_heard (leads : Leads limit session frames final) :
    ∃ groups, session.Heard frames groups final := by
  induction leads with
  | stays session => exact ⟨[], rfl, rfl, nofun⟩
  | @follows session next final payload payloads commands listens fits reads applies more ih =>
    obtain ⟨groups, heard⟩ := ih
    refine ⟨commands :: groups, ?_, ?_, ?_⟩
    · rw [List.map_cons, List.map_cons, reads, heard.reads]
    · rw [List.flatten_cons]
      exact apply_all_append_ok.mpr ⟨next, applies, heard.applies⟩
    · intro number within earlier reached
      cases number with
      | zero =>
        cases reached
        exact listens
      | succ number =>
        rw [List.take_succ_cons, List.flatten_cons] at reached
        obtain ⟨middle, inFront, behind⟩ := apply_all_append_ok.mp reached
        cases applies.symm.trans inFront
        exact heard.listens number (Nat.lt_of_succ_lt_succ within) earlier behind

theorem heard_leads {groups : List (List Command)} (fits : ∀ payload ∈ frames, FitsFrame limit payload)
    (heard : session.Heard frames groups final) : Leads limit session frames final := by
  induction groups generalizing session frames with
  | nil =>
    obtain rfl : frames = [] := List.map_eq_nil_iff.mp heard.reads
    cases heard.applies
    exact .stays _
  | cons commands groups ih =>
    obtain ⟨payload, payloads, rfl, reads, others⟩ := List.map_eq_cons_iff.mp heard.reads
    obtain ⟨next, applies, behind⟩ := apply_all_append_ok.mp heard.applies
    have listens := heard.listens 0 (Nat.succ_pos _) session rfl
    have later : next.Heard payloads groups final := by
      refine ⟨others, behind, fun number within earlier reached => ?_⟩
      refine heard.listens (number + 1) (Nat.succ_lt_succ within) earlier ?_
      rw [List.take_succ_cons, List.flatten_cons]
      exact apply_all_append_ok.mpr ⟨next, applies, reached⟩
    exact .follows listens (fits payload List.mem_cons_self) reads applies
      (ih (fun other member => fits other (List.mem_cons_of_mem payload member)) later)

theorem follow_stays (heard : session.shutDown = true) (source : ByteSource) (limit : Nat) :
    session.follow source limit = (.ok (), session, source) := by
  rw [follow, if_pos heard]

theorem follow_refuses {next : ByteSource} {commands : List Command} {error : Error}
    (listens : session.shutDown = false) (read : source.readFrame limit = (.ok (some commands), next))
    (failed : session.applyAll commands = (.error error, final)) :
    session.follow source limit = (.error error, final, next) := by
  rw [follow_reads listens read]
  dsimp only
  rw [failed]

theorem stops_or_goes_on (session : Session) (payload : Bytes) (payloads : List Bytes) :
    (∃ outcome final left, session.Stops (payload :: payloads) outcome final left) ∨
      session.shutDown = false ∧ ∃ commands next, Wire.decode payload = .ok commands ∧
        session.applyAll commands = (.ok (), next) := by
  cases known : session.shutDown with
  | true => exact .inl ⟨_, _, _, .goodbye known⟩
  | false =>
    cases decoded : Wire.decode payload with
    | error error => exact .inl ⟨_, _, _, .unreadable known decoded⟩
    | ok commands =>
      cases applied : session.applyAll commands with
      | mk answer next =>
        cases answer with
        | ok => exact .inr ⟨rfl, commands, next, rfl, applied⟩
        | error error =>
          obtain ⟨front, command, back, rfl, applies, refuses⟩ := refused_among applied
          exact .inl ⟨_, _, _, .refused known decoded applies refuses⟩

theorem led_to_stop (fits : ∀ payload ∈ frames, FitsFrame limit payload) (session : Session) :
    ∃ taken next middle outcome final left, frames = taken ++ next ∧
      Leads limit session taken middle ∧ middle.Stops next outcome final left := by
  induction frames generalizing session with
  | nil =>
    cases known : session.shutDown with
    | true => exact ⟨[], [], session, _, _, _, rfl, .stays session, .goodbye known⟩
    | false => exact ⟨[], [], session, _, _, _, rfl, .stays session, .ends known⟩
  | cons payload payloads ih =>
    obtain ⟨outcome, final, left, stops⟩ | ⟨listens, commands, after, reads, applies⟩ :=
      session.stops_or_goes_on payload payloads
    · exact ⟨[], _, session, outcome, final, left, rfl, .stays session, stops⟩
    · have others := fun other member => fits other (List.mem_cons_of_mem payload member)
      obtain ⟨taken, next, middle, outcome, final, left, rfl, leads, stops⟩ := ih others after
      exact ⟨payload :: taken, next, middle, outcome, final, left, rfl,
        .follows listens (fits payload List.mem_cons_self) reads applies leads, stops⟩

theorem stops_followed {outcome : Except Error Unit} {left : List Bytes}
    (stops : session.Stops frames outcome final left) (fits : ∀ payload ∈ frames, FitsFrame limit payload)
    (runsOut : source.RunsOut (frames.flatMap frameOf)) :
    ∃ rest, session.follow source limit = (outcome, final, rest) ∧
      rest.RunsOut (left.flatMap frameOf) := by
  cases stops with
  | goodbye heard => exact ⟨source, follow_stays heard source limit, runsOut⟩
  | ends listens =>
    obtain ⟨next, read, nothing⟩ := read_ends runsOut (Nat.succ_pos 3) limit
    exact ⟨next, follow_reads listens read, nothing⟩
  | unreadable listens bad =>
    rw [List.flatMap_cons] at runsOut
    obtain ⟨next, read, behind⟩ := read_whole runsOut (fits _ List.mem_cons_self)
    rw [bad] at read
    exact ⟨next, follow_reads listens read, behind⟩
  | refused listens reads applies refuses =>
    rw [List.flatMap_cons] at runsOut
    obtain ⟨next, read, behind⟩ := read_whole runsOut (fits _ List.mem_cons_self)
    rw [reads] at read
    exact ⟨next, follow_refuses listens read (apply_all_refused applies refuses _), behind⟩

theorem led_frames_followed {taken next left : List Bytes} {middle : Session}
    {outcome : Except Error Unit} (leads : Leads limit session taken middle)
    (stops : middle.Stops next outcome final left) (fits : ∀ payload ∈ next, FitsFrame limit payload)
    (runsOut : source.RunsOut ((taken ++ next).flatMap frameOf)) :
    ∃ rest, session.follow source limit = (outcome, final, rest) ∧
      rest.RunsOut (left.flatMap frameOf) := by
  induction leads generalizing source with
  | stays session => exact stops_followed stops fits runsOut
  | follows listens fitting reads applies more ih =>
    rw [List.cons_append, List.flatMap_cons] at runsOut
    obtain ⟨behind, read, runsOn⟩ := read_whole runsOut fitting
    rw [reads] at read
    rw [follow_goes_on listens read applies]
    exact ih stops runsOn

theorem frames_folded_up_to_stop (limit : Nat) (session : Session) (frames : List Bytes)
    (source : ByteSource) (fits : ∀ payload ∈ frames, FitsFrame limit payload)
    (runsOut : source.RunsOut (frames.flatMap frameOf)) :
    (∃ outcome final left, session.Followed frames outcome final left) ∧
    (∀ outcome final left, session.Followed frames outcome final left →
      ∃ rest, session.follow source limit = (outcome, final, rest) ∧
        rest.RunsOut (left.flatMap frameOf)) ∧
    (session.shutDown = true → session.follow source limit = (.ok (), session, source)) := by
  refine ⟨?_, ?_, fun heard => follow_stays heard source limit⟩
  · obtain ⟨taken, next, middle, outcome, final, left, cut, leads, stops⟩ := led_to_stop fits session
    obtain ⟨groups, heard⟩ := leads_heard leads
    exact ⟨outcome, final, left, taken, next, groups, middle, cut, heard, stops⟩
  · rintro outcome final left ⟨taken, next, groups, middle, rfl, heard, stops⟩
    have leads : Leads limit session taken middle :=
      heard_leads (fun payload member => fits payload (List.mem_append_left next member)) heard
    exact led_frames_followed leads stops
      (fun payload member => fits payload (List.mem_append_right taken member)) runsOut

-- A goodbye said twice in one frame is heard to the end of that frame, and the frame behind it, which
-- cannot be read, is left. A command of a viewer behind a goodbye is refused, with the goodbye heard.
theorem goodbye_inside_frame :
    let parting : Session := { Session.start with shutDown := true }
    let content : ByteSource := ⟨[[0, 0, 0], [2, 0x0b], [0x0b, 0, 0, 0, 1], [0xff]], .endOfData⟩
    let refusing : ByteSource := ⟨[[0, 0, 0, 2, 0x0b], [0x81, 0, 0, 0, 1, 0xff]], .endOfData⟩
    (∃ rest, Session.start.follow content 1024 = (.ok (), parting, rest) ∧
      rest.RunsOut [0, 0, 0, 1, 0xff]) ∧
    ∃ rest, Session.start.follow refusing 1024 =
        (.error (.malformed "client command Play in a server stream"), parting, rest) ∧
      rest.RunsOut [0, 0, 0, 1, 0xff] := by
  intro parting content refusing
  have twice : Wire.decode [0x0b, 0x0b] = .ok [.shutdown, .shutdown] :=
    Wire.except_ok_of_option (by decide +kernel)
  have mixed : Wire.decode [0x0b, 0x81] = .ok ([.shutdown] ++ .play :: []) :=
    Wire.except_ok_of_option (by decide +kernel)
  have heard : Session.start.Heard [[0x0b, 0x0b]] [[.shutdown, .shutdown]] parting := by
    refine ⟨congrArg (fun group => [group]) twice, rfl, fun number within earlier reached => ?_⟩
    obtain rfl : number = 0 := Nat.lt_one_iff.mp within
    cases reached
    rfl
  constructor
  · exact (frames_folded_up_to_stop 1024 .start [[0x0b, 0x0b], [0xff]] content
      (by simp [FitsFrame])
      ⟨⟨by decide, rfl⟩, rfl⟩).2.1 _ _ _
      ⟨[[0x0b, 0x0b]], [[0xff]], _, parting, rfl, heard, .goodbye rfl⟩
  · exact (frames_folded_up_to_stop 1024 .start [[0x0b, 0x81], [0xff]] refusing
      (by simp [FitsFrame])
      ⟨⟨by decide, rfl⟩, rfl⟩).2.1 _ _ _
      ⟨[], [[0x0b, 0x81], [0xff]], [], .start, rfl, ⟨rfl, rfl, nofun⟩, .refused rfl mixed rfl rfl⟩

end Session

end HeapScope
