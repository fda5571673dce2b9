import HeapScope.Json.Sessions
import HeapScope.Proofs.Session.Snapshot

/- A session that is given commands one by one, whatever it answers. The commands that it accepted alone
   lead to the same session, so everything is said of a list of accepted commands: what each does to the
   session (`Accepts`), and by induction on the list which reports were begun and ended (`Received`). -/
namespace HeapScope

namespace Command

def opens? : Command → Option (Option SpaceId)
  | .spaceBegin space _ _ => some (some space)
  | .spaceEnd _ => some none
  | _ => none

def aside : Command → Bool
  | .hello _ | .spaceDef _ | .safepoint .. | .shutdown => true
  | _ => false

def Suits (opened : Option SpaceId) : Command → Prop
  | .hello _ | .spaceDef _ | .safepoint .. | .shutdown => True
  | .spaceBegin .. => opened = none
  | .tileNames space _ | .streamData space _ _ _ | .control space _ | .summary space _ _
  | .spaceInfo space _ | .spaceEnd space => opened = some space
  | .play | .pause | .step | .enableEvent .. | .disconnect => False

theorem tells_not_aside {space : SpaceId} {command : Command} (tells : command.TellsOf space) :
    command.aside = false := by
  cases command with
  | tileNames | streamData | control | summary | spaceInfo => rfl
  | _ => cases tells

theorem tells_opens {space : SpaceId} {command : Command} (tells : command.TellsOf space) :
    command.opens? = none := by
  cases command with
  | spaceBegin | spaceEnd => cases tells
  | _ => rfl

theorem aside_opens {command : Command} (beside : command.aside = true) : command.opens? = none := by
  cases command with
  | spaceBegin | spaceEnd => cases beside
  | _ => rfl

end Command

theorem SpaceSnapshot.shows_aside (report : SpaceSnapshot) {command : Command}
    (beside : command.aside = true) : report.shows command = report := by
  cases command with
  | tileNames | streamData | control | summary | spaceInfo => cases beside
  | _ => rfl

namespace Session

def afterEach (session : Session) (commands : List Command) : Session :=
  commands.foldl (fun session command => (session.applyAll [command]).2) session

def accepted (session : Session) : List Command → List Command
  | [] => []
  | command :: commands =>
    match session.applyAll [command] with
    | (.ok (), next) => command :: next.accepted commands
    | (.error _, same) => same.accepted commands

def openSpace (commands : List Command) : Option SpaceId := (lastOf Command.opens? commands).join

inductive Accepts (session : Session) : Command → Session → Prop
  | begins {space : SpaceId} {event : EventId} {tileCount : UInt32} (idle : session.current = none) :
    Accepts session (.spaceBegin space event tileCount)
      { session with
        current := some (.start space event tileCount (session.keptNames space tileCount)) }
  | tells {report : SpaceSnapshot} {command : Command} (is : session.current = some report)
    (tells : command.TellsOf report.space) :
    Accepts session command { session with current := some (report.shows command) }
  | ends {report : SpaceSnapshot} (is : session.current = some report) :
    Accepts session (.spaceEnd report.space)
      { session with spaces := session.spaces.insert report.space report, current := none }
  -- Such a command neither sees nor changes the reports.
  | hears {command : Command} {next : Session} (beside : command.aside = true)
    (spaces : next.spaces = session.spaces) (current : next.current = session.current)
    (heard : ∀ current, { session with current }.apply command = .ok { next with current }) :
    Accepts session command next

theorem update_accepts {session next : Session} {space : SpaceId}
    {change : SpaceSnapshot → SpaceSnapshot} (updated : session.update space change = .ok next) :
    ∃ report, session.current = some report ∧ report.space = space ∧
      next = { session with current := some (change report) } := by
  unfold update at updated
  cases is : session.current with
  | none =>
    rw [is] at updated
    cases updated
  | some report =>
    rw [is] at updated
    by_cases same : report.space = space
    · cases (if_pos same).symm.trans updated
      exact ⟨report, rfl, same, rfl⟩
    · cases (if_neg same).symm.trans updated

theorem apply_accepts {session next : Session} {command : Command}
    (applied : session.apply command = .ok next) : session.Accepts command next := by
  cases command with
  | hello | spaceDef | safepoint | shutdown =>
    cases applied
    exact .hears rfl rfl rfl fun _ => rfl
  | spaceBegin space event tileCount =>
    rw [apply, beginSpace] at applied
    cases is : session.current with
    | none =>
      rw [is] at applied
      cases applied
      exact .begins is
    | some report =>
      rw [is] at applied
      cases applied
  | tileNames | streamData | control | summary | spaceInfo =>
    obtain ⟨report, is, same, rfl⟩ := update_accepts applied
    exact .tells is same.symm
  | spaceEnd space =>
    rw [apply, endSpace] at applied
    cases is : session.current with
    | none =>
      rw [is] at applied
      cases applied
    | some report =>
      rw [is] at applied
      by_cases same : report.space = space
      · cases (if_pos same).symm.trans applied
        exact same ▸ .ends is
      · cases (if_neg same).symm.trans applied
  | play | pause | step | enableEvent | disconnect => cases applied

theorem update_applies {session : Session} {space : SpaceId}
    (suits : session.current.map SpaceSnapshot.space = some space)
    (change : SpaceSnapshot → SpaceSnapshot) : ∃ next, session.update space change = .ok next := by
  obtain ⟨report, is, same⟩ := Option.map_eq_some_iff.mp suits
  rw [update, is]
  exact ⟨_, if_pos same⟩

theorem apply_ok_iff (session : Session) (command : Command) :
    (∃ next, session.apply command = .ok next) ↔
      command.Suits (session.current.map SpaceSnapshot.space) := by
  constructor
  · rintro ⟨next, applied⟩
    cases apply_accepts applied with
    | begins idle => exact congrArg (Option.map SpaceSnapshot.space) idle
    | ends is => exact congrArg (Option.map SpaceSnapshot.space) is
    | tells is tells =>
      rw [is]
      cases command with
      | tileNames | streamData | control | summary | spaceInfo => exact congrArg some tells.symm
      | _ => cases tells
    | hears beside =>
      cases command with
      | hello | spaceDef | safepoint | shutdown => exact trivial
      | _ => cases beside
  · intro suits
    cases command with
    | hello | spaceDef | safepoint | shutdown => exact ⟨_, rfl⟩
    | spaceBegin space event tileCount =>
      rw [apply, beginSpace, Option.map_eq_none_iff.mp suits]
      exact ⟨_, rfl⟩
    | tileNames | streamData | control | summary | spaceInfo => exact update_applies suits _
    | spaceEnd space =>
      obtain ⟨report, is, same⟩ := Option.map_eq_some_iff.mp suits
      rw [apply, endSpace, is]
      exact ⟨_, if_pos same⟩
    | play | pause | step | enableEvent | disconnect => cases suits

theorem apply_one (session : Session) (command : Command) :
    (∃ next, session.apply command = .ok next ∧ session.applyAll [command] = (.ok (), next)) ∨
      ∃ error, session.apply command = .error error ∧
        session.applyAll [command] = (.error error, session) := by
  cases applied : session.apply command with
  | ok next =>
    rw [applyAll, applied]
    exact .inl ⟨next, rfl, rfl⟩
  | error error =>
    rw [applyAll, applied]
    exact .inr ⟨error, rfl, rfl⟩

theorem apply_all_cons_ok {session final : Session} {command : Command} {commands : List Command} :
    session.applyAll (command :: commands) = (.ok (), final) ↔
      ∃ next, session.apply command = .ok next ∧ next.applyAll commands = (.ok (), final) := by
  rw [applyAll]
  cases session.apply command with
  | ok next => simp
  | error error => simp

theorem apply_all_append_ok {session final : Session} {front back : List Command} :
    session.applyAll (front ++ back) = (.ok (), final) ↔
      ∃ middle, session.applyAll front = (.ok (), middle) ∧ middle.applyAll back = (.ok (), final) := by
  induction front generalizing session with
  | nil =>
    constructor
    · exact fun applied => ⟨session, rfl, applied⟩
    · rintro ⟨middle, same, applied⟩
      cases same
      exact applied
  | cons command front ih =>
    simp only [List.cons_append, apply_all_cons_ok, ih]
    constructor
    · rintro ⟨next, applied, middle, inFront, behind⟩
      exact ⟨middle, ⟨next, applied, inFront⟩, behind⟩
    · rintro ⟨middle, ⟨next, applied, inFront⟩, behind⟩
      exact ⟨next, applied, middle, inFront, behind⟩

theorem accepted_applies (session : Session) (commands : List Command) :
    session.applyAll (session.accepted commands) = (.ok (), session.afterEach commands) := by
  induction commands generalizing session with
  | nil => rfl
  | cons command commands ih =>
    rw [accepted, afterEach, List.foldl_cons]
    obtain ⟨next, applied, answered⟩ | ⟨error, _, answered⟩ := session.apply_one command
    · rw [answered]
      exact apply_all_cons_ok.mpr ⟨next, applied, ih next⟩
    · rw [answered]
      exact ih session

theorem received_unseen {session final : Session} {report : SpaceSnapshot} {body : List Command}
    (is : session.current = some report) (applied : session.applyAll body = (.ok (), final))
    (unended : .spaceEnd report.space ∉ body) :
    ∃ seen received, applyAll { session with current := none } (body.filter Command.aside) =
      (.ok (), seen) ∧ final = { seen with current := some received } := by
  induction body generalizing session report with
  | nil =>
    cases applied
    refine ⟨{ final with current := none }, report, rfl, ?_⟩
    rw [← is]
  | cons command body ih =>
    obtain ⟨next, first, others⟩ := apply_all_cons_ok.mp applied
    have later := List.not_mem_of_not_mem_cons unended
    cases apply_accepts first with
    | begins idle => cases idle.symm.trans is
    | ends current =>
      cases is.symm.trans current
      exact absurd List.mem_cons_self unended
    | tells current tells =>
      cases is.symm.trans current
      rw [List.filter_cons_of_neg (by rw [Command.tells_not_aside tells]; exact Bool.false_ne_true)]
      rw [← SpaceSnapshot.shows_space report command] at later
      exact (ih rfl others later :)
    | hears beside _ same heard =>
      obtain ⟨seen, received, led, shown⟩ := ih (same.trans is) others later
      rw [List.filter_cons_of_pos beside]
      exact ⟨seen, received, apply_all_cons_ok.mpr ⟨_, heard none, led⟩, shown⟩

end Session

inductive Filed (space : SpaceId) : List Command → List FiledReport → Prop
  | never {commands : List Command} (absent : .spaceEnd space ∉ commands) : Filed space commands []
  | latest {before body after : List Command} {event : EventId} {tileCount : UInt32}
    {earlier : List FiledReport} (filed : Filed space before earlier)
    (inside : ∀ command ∈ body, command.TellsOf space ∨ command.aside = true)
    (last : .spaceEnd space ∉ after) :
    Filed space (before ++ .spaceBegin space event tileCount :: body ++ .spaceEnd space :: after)
      (⟨event, space, tileCount, body⟩ :: earlier)

theorem cut_unique (ends : α → Prop) {front other back rest : List α} {first second : α}
    (cut : front ++ first :: back = other ++ second :: rest) (firstEnds : ends first)
    (secondEnds : ends second) (noneBack : ∀ element ∈ back, ¬ends element)
    (noneRest : ∀ element ∈ rest, ¬ends element) : front = other ∧ first = second ∧ back = rest := by
  rcases List.append_eq_append_iff.mp cut with ⟨between, rfl, tails⟩ | ⟨between, rfl, tails⟩
  · cases between with
    | nil => simpa using tails
    | cons head between =>
      obtain ⟨_, rfl⟩ := List.cons.inj tails
      exact absurd secondEnds (noneBack second (by simp))
  · cases between with
    | nil => simpa [eq_comm] using tails
    | cons head between =>
      obtain ⟨_, rfl⟩ := List.cons.inj tails
      exact absurd firstEnds (noneRest first (by simp))

theorem filed_unique {space : SpaceId} {commands : List Command} {reports others : List FiledReport}
    (filed : Filed space commands reports) (also : Filed space commands others) : reports = others := by
  have quiet {body : List Command}
      (inside : ∀ command ∈ body, command.TellsOf space ∨ command.aside = true) :
      ∀ command ∈ body, ¬command.opens?.isSome = true := by
    intro command member
    rw [(inside command member).elim Command.tells_opens Command.aside_opens]
    exact Bool.false_ne_true
  have unended {after : List Command} (last : .spaceEnd space ∉ after) :
      ∀ command ∈ after, ¬command = .spaceEnd space := by
    rintro command member rfl
    exact last member
  induction filed generalizing others with
  | never absent =>
    cases also with
    | never => rfl
    | latest => simp at absent
  | @latest before body after event tileCount earlier filed inside last ih =>
    generalize whole :
      before ++ .spaceBegin space event tileCount :: body ++ .spaceEnd space :: after = commands at also
    cases also with
    | never absent =>
      rw [← whole] at absent
      simp at absent
    | latest filedToo insideToo lastToo =>
      obtain ⟨fronts, _, _⟩ := cut_unique (· = .spaceEnd space) whole rfl rfl (unended last) (unended lastToo)
      obtain ⟨rfl, begins, rfl⟩ := cut_unique (·.opens?.isSome = true) fronts rfl rfl (quiet inside) (quiet insideToo)
      cases begins
      rw [ih filedToo]
structure Reception where
  before : List Command
  space : SpaceId
  event : EventId
  tileCount : UInt32
  body : List Command
  inside : ∀ command ∈ body, command.TellsOf space ∨ command.aside = true
  earlier : List FiledReport
  filed : Filed space before earlier

namespace Reception

open Session

def commands (reception : Reception) : List Command :=
  reception.before ++
    .spaceBegin reception.space reception.event reception.tileCount :: reception.body

def kept (reception : Reception) : List String :=
  if reception.earlier.head?.map FiledReport.tileCount = some reception.tileCount then
    shownNames reception.earlier
  else []

def snapshot (reception : Reception) : SpaceSnapshot :=
  reception.body.foldl SpaceSnapshot.shows
    (.start reception.space reception.event reception.tileCount reception.kept)

theorem snapshot_space (reception : Reception) : reception.snapshot.space = reception.space :=
  SpaceSnapshot.body_keeps (·.space) SpaceSnapshot.shows_space _ _

theorem opened (reception : Reception) : openSpace reception.commands = some reception.space := by
  have quiet : reception.body.filterMap Command.opens? = [] :=
    List.filterMap_eq_nil_iff.mpr fun command member =>
      (reception.inside command member).elim Command.tells_opens Command.aside_opens
  have begun : Command.opens? (.spaceBegin reception.space reception.event reception.tileCount) =
      some (some reception.space) := rfl
  rw [openSpace, lastOf, commands, List.filterMap_append, List.filterMap_cons_some begun, quiet,
    List.getLast?_concat]
  rfl

theorem add (reception : Reception) {command : Command}
    (inside : command.TellsOf reception.space ∨ command.aside = true) :
    ∃ more : Reception, more.space = reception.space ∧
      more.commands = reception.commands ++ [command] ∧
      more.snapshot = reception.snapshot.shows command := by
  have all : ∀ other ∈ reception.body ++ [command],
      other.TellsOf reception.space ∨ other.aside = true := by
    intro other member
    cases List.mem_append.mp member with
    | inl earlier => exact reception.inside other earlier
    | inr last => exact List.mem_singleton.mp last ▸ inside
  refine ⟨{ reception with body := reception.body ++ [command], inside := all }, rfl, ?_, ?_⟩
  · rw [commands, commands, List.append_assoc, List.cons_append]
  · exact List.foldl_append

end Reception

namespace Session

def Opened (commands : List Command) : Option SpaceSnapshot → Prop
  | none => openSpace commands = none
  | some report => ∃ reception : Reception, commands = reception.commands ∧ report = reception.snapshot

def Shown (commands : List Command) (space : SpaceId) : Option SpaceSnapshot → Prop
  | none => .spaceEnd space ∉ commands
  | some report => ∃ (reception : Reception) (after : List Command), reception.space = space ∧
      commands = reception.commands ++ .spaceEnd space :: after ∧ .spaceEnd space ∉ after ∧
      report = reception.snapshot ∧
      report.Holds space reception.event reception.tileCount reception.kept reception.body

theorem shown_filed {commands : List Command} {space : SpaceId} {shown : Option SpaceSnapshot}
    (shows : Shown commands space shown) : ∃ reports, Filed space commands reports ∧
      reports.head?.map FiledReport.tileCount = shown.map (·.tileCount) ∧
      shownNames reports = (shown.map (·.tileNames)).getD [] := by
  cases shown with
  | none => exact ⟨[], .never shows, rfl, rfl⟩
  | some report =>
    obtain ⟨reception, after, rfl, rfl, last, _, holds⟩ := shows
    refine ⟨_, .latest reception.filed reception.inside last, ?_, ?_⟩
    · exact congrArg some holds.tileCount.symm
    · exact holds.tileNames.symm

theorem kept_names {commands : List Command} {space : SpaceId} {session : Session}
    (shows : Shown commands space (session.space? space)) (tileCount : UInt32) :
    ∃ reports, Filed space commands reports ∧ session.keptNames space tileCount =
      if reports.head?.map FiledReport.tileCount = some tileCount then shownNames reports else [] := by
  obtain ⟨reports, filed, counts, names⟩ := shown_filed shows
  refine ⟨reports, filed, ?_⟩
  rw [counts, names, keptNames]
  cases session.space? space with
  | none => rfl
  | some report => simp

theorem shown_append {commands : List Command} {space : SpaceId} {shown : Option SpaceSnapshot}
    (shows : Shown commands space shown) {command : Command} (other : command ≠ .spaceEnd space) :
    Shown (commands ++ [command]) space shown := by
  have neither {commands : List Command} (absent : .spaceEnd space ∉ commands) :
      .spaceEnd space ∉ commands ++ [command] := by
    rw [List.mem_append, List.mem_singleton]
    exact not_or.mpr ⟨absent, other.symm⟩
  cases shown with
  | none => exact neither shows
  | some report =>
    obtain ⟨reception, after, same, cut, last, is, holds⟩ := shows
    refine ⟨reception, after ++ [command], same, ?_, neither last, is, holds⟩
    rw [cut, List.append_assoc, List.cons_append]

structure Received (commands : List Command) (session : Session) : Prop where
  current : Opened commands session.current
  shown : ∀ space, Shown commands space (session.space? space)
  stored : ∀ entry ∈ session.spaces.entries, entry.2.space = entry.1

theorem received_inside {commands : List Command} {session : Session} {report : SpaceSnapshot}
    (received : Received commands session) (is : session.current = some report) :
    ∃ reception : Reception, commands = reception.commands ∧ report = reception.snapshot := by
  have opened := received.current
  rw [is] at opened
  exact opened

theorem received_idle {commands : List Command} {session : Session}
    (received : Received commands session) (idle : session.current = none) :
    openSpace commands = none := by
  have opened := received.current
  rw [idle] at opened
  exact opened

theorem received_step {commands : List Command} {session next : Session} {command : Command}
    (received : Received commands session) (accepts : session.Accepts command next) : Received (commands ++ [command]) next := by
  cases accepts with
  | @begins space event tileCount idle =>
    obtain ⟨reports, filed, names⟩ := kept_names (received.shown space) tileCount
    let begun : Reception :=
      ⟨commands, space, event, tileCount, [], List.forall_mem_nil _, reports, filed⟩
    have empty : begun.snapshot =
        .start space event tileCount (session.keptNames space tileCount) := by
      rw [names]
      rfl
    refine ⟨⟨begun, rfl, empty.symm⟩, fun other => ?_, received.stored⟩
    exact shown_append (received.shown other) Command.noConfusion
  | tells is tells =>
    obtain ⟨reception, rfl, rfl⟩ := received_inside received is
    rw [reception.snapshot_space] at tells
    obtain ⟨more, _, commands, snapshot⟩ := reception.add (.inl tells)
    refine ⟨⟨more, commands.symm, snapshot.symm⟩, fun other => ?_, received.stored⟩
    refine shown_append (received.shown other) ?_
    rintro rfl
    exact tells
  | @ends report is =>
    obtain ⟨reception, rfl, rfl⟩ := received_inside received is
    refine ⟨?_, ?_, ?_⟩
    · rw [Opened, openSpace, last_of_append]
      rfl
    · intro space
      by_cases same : space = reception.snapshot.space
      · rw [same, space?, Table.get_insert_self]
        refine ⟨reception, [], reception.snapshot_space.symm, rfl, List.not_mem_nil, rfl, ?_⟩
        rw [reception.snapshot_space]
        exact SpaceSnapshot.body_holds _ _ _ _ _
      · have kept := session.spaces.get_insert_of_ne _ space reception.snapshot same
        rw [space?, kept]
        refine shown_append (received.shown space) ?_
        rintro ended
        cases ended
        exact same rfl
    · intro entry member
      cases Table.mem_insert_into member with
      | inl new => rw [new]
      | inr old => exact received.stored entry old
  | hears beside spaces current =>
    refine ⟨?_, fun other => ?_, spaces ▸ received.stored⟩
    · rw [current]
      cases is : session.current with
      | none =>
        rw [Opened, openSpace, last_of_append, Command.aside_opens beside]
        exact received_idle received is
      | some report =>
        obtain ⟨reception, rfl, rfl⟩ := received_inside received is
        obtain ⟨more, _, commands, snapshot⟩ := reception.add (.inr beside)
        rw [SpaceSnapshot.shows_aside _ beside] at snapshot
        exact ⟨more, commands.symm, snapshot.symm⟩
    · rw [space?, spaces]
      refine shown_append (received.shown other) ?_
      rintro rfl
      cases beside

theorem run_received {front back : List Command} {session final : Session}
    (received : Received front session) (applied : session.applyAll back = (.ok (), final)) :
    Received (front ++ back) final := by
  induction back generalizing front session with
  | nil =>
    cases applied
    exact front.append_nil.symm ▸ received
  | cons command back ih =>
    obtain ⟨next, first, others⟩ := apply_all_cons_ok.mp applied
    rw [List.append_cons]
    exact ih (received_step received (apply_accepts first)) others

theorem start_received : Received [] .start where
  current := rfl
  shown _ := List.not_mem_nil
  stored := List.forall_mem_nil _

theorem received_opened {commands : List Command} {session : Session}
    (received : Received commands session) :
    session.current.map SpaceSnapshot.space = openSpace commands := by
  cases is : session.current with
  | none => exact (received_idle received is).symm
  | some report =>
    obtain ⟨reception, rfl, rfl⟩ := received_inside received is
    rw [reception.opened, Option.map_some, reception.snapshot_space]

structure ShowsComplete (session : Session) (accepted : List Command) : Prop where
  led : Session.start.applyAll accepted = (.ok (), session)
  answers : ∀ command : Command,
    ((session.applyAll [command]).1 = .ok () ↔ command.Suits (openSpace accepted)) ∧
    ((session.applyAll [command]).1 ≠ .ok () → (session.applyAll [command]).2 = session)
  stored : ∀ entry ∈ session.spaces.entries, entry.2.space = entry.1
  shown : ∀ space, Shown accepted space (session.space? space)
  unseen : ∀ before space event tileCount body,
    accepted = before ++ .spaceBegin space event tileCount :: body → .spaceEnd space ∉ body →
      let seen := (Session.start.applyAll (before ++ body.filter Command.aside)).2
      session.space? = seen.space? ∧ session.toJson = seen.toJson

theorem complete_reports_shown (commands : List Command) :
    ShowsComplete (Session.start.afterEach commands) (Session.start.accepted commands) := by
  have led := accepted_applies .start commands
  generalize Session.start.afterEach commands = session at led ⊢
  generalize Session.start.accepted commands = accepted at led ⊢
  have received : Received accepted session := run_received start_received led
  refine { led, answers := fun command => ?_, stored := received.stored, shown := received.shown, unseen := ?_ }
  · rw [← received_opened received, ← apply_ok_iff]
    obtain ⟨next, applied, answered⟩ | ⟨error, applied, answered⟩ := session.apply_one command
    · rw [answered]
      exact ⟨⟨fun _ => ⟨next, applied⟩, fun _ => rfl⟩, fun refused => absurd rfl refused⟩
    · rw [answered, applied]
      refine ⟨⟨fun accepts => ?_, fun ⟨_, same⟩ => ?_⟩, fun _ => rfl⟩
      · cases accepts
      · cases same
  · intro before space event tileCount body cut unended
    rw [cut] at led
    obtain ⟨middle, inFront, behind⟩ := apply_all_append_ok.mp led
    obtain ⟨next, begun, others⟩ := apply_all_cons_ok.mp behind
    cases apply_accepts begun with
    | tells _ tells => cases tells
    | hears beside => cases beside
    | begins idle =>
      obtain ⟨seen, received, heard, shown⟩ := received_unseen rfl others unended
      have whole := apply_all_append_ok.mpr ⟨middle, inFront, idle ▸ heard⟩
      rw [whole, shown]
      exact ⟨rfl, rfl⟩

-- A client's command and a write of another space come between the writes of the first report, and the
-- second report, which takes over the names, is not ended.
theorem second_report_unseen :
    let first : List Command := [.spaceBegin ⟨1⟩ ⟨0⟩ 2, .tileNames ⟨1⟩ ["a", "b"]]
    let second : List Command := [.spaceInfo ⟨1⟩ "more", .shutdown]
    let session := start.afterEach
      (first ++ [.play, .spaceInfo ⟨2⟩ "other", .spaceEnd ⟨1⟩, .spaceBegin ⟨1⟩ ⟨0⟩ 2] ++ second)
    let seen := (start.applyAll (first ++ [.spaceEnd ⟨1⟩, .shutdown])).2
    session.current = some { SpaceSnapshot.start ⟨1⟩ ⟨0⟩ 2 ["a", "b"] with info := "more" } ∧
    session.space? ⟨1⟩ = some (.start ⟨1⟩ ⟨0⟩ 2 ["a", "b"]) ∧ session.toJson = seen.toJson ∧
    (session.applyAll [.spaceEnd ⟨2⟩]).2 = session := by
  intro first second session seen
  let commands :=
    first ++ [.play, .spaceInfo ⟨2⟩ "other", .spaceEnd ⟨1⟩, .spaceBegin ⟨1⟩ ⟨0⟩ 2] ++ second
  have shows := complete_reports_shown commands
  obtain ⟨spaces, json⟩ := shows.unseen (first ++ [.spaceEnd ⟨1⟩]) ⟨1⟩ ⟨0⟩ 2 second rfl (by decide)
  obtain ⟨suits, unchanged⟩ := shows.answers (.spaceEnd ⟨2⟩)
  have refused : ¬ Command.Suits (some ⟨1⟩) (.spaceEnd ⟨2⟩) := by
    rw [Command.Suits]
    decide
  refine ⟨rfl, ?_, json, unchanged fun accepts => refused (suits.mp accepts)⟩
  exact (congrFun spaces ⟨1⟩).trans rfl

end Session

end HeapScope
