import HeapScope.Proofs.Report.Freshness

namespace HeapScope.Recorder

open Journal

inductive Part where
  | begins (space : SpaceId)
  | names (space : SpaceId)
  | ends (space : SpaceId)
  -- The report that is open is over, and its frame was not sent.
  | loses
  | aside
deriving DecidableEq, Repr

def Part.closes : Part → Bool
  | .ends _ | .loses => true
  | .begins _ | .names _ | .aside => false

def partOf : Action → Except Error Unit → Part
  | .report (.beginSpace _ space _), .ok () => .begins space
  | .report (.tileNames space _), .ok () => .names space
  | .report (.endSpace space), .ok () => .ends space
  | .report (.endSpace _), .error error =>
    if handedOver (.error error) || dropped (.error error) then .loses else .aside
  | .discard, _ | .shutdown, _ => .loses
  | _, _ => .aside

def UnderWay (space : SpaceId) (report story : List Part) : Prop :=
  ∃ before, story = before ++ .begins space :: report ∧ ∀ part ∈ report, part.closes = false

def IsOpen (space : SpaceId) (story : List Part) : Prop :=
  ∃ report, UnderWay space report story

def HasNames (space : SpaceId) (story : List Part) : Prop :=
  ∃ report, UnderWay space report story ∧ .names space ∈ report

def NamesDelivered (space : SpaceId) (story : List Part) : Prop :=
  ∃ front back, story = front ++ .ends space :: back ∧ HasNames space front

section Story

variable {space : SpaceId} {story : List Part} {last : Part}

theorem names_open (names : HasNames space story) : IsOpen space story := by
  obtain ⟨report, underWay, _⟩ := names
  exact ⟨report, underWay⟩

theorem not_open_nil : ¬IsOpen space [] := by
  rintro ⟨report, before, split, _⟩
  cases before <;> cases split

theorem nameless_nil : ¬HasNames space [] := fun names => not_open_nil (names_open names)

theorem undelivered_nil : ¬NamesDelivered space [] := by
  rintro ⟨front, back, split, _⟩
  cases front <;> cases split

theorem under_way_snoc {report : List Part} :
    UnderWay space report (story ++ [last]) ↔
      report = [] ∧ last = .begins space ∨
        ∃ earlier, report = earlier ++ [last] ∧ UnderWay space earlier story ∧ last.closes = false := by
  constructor
  · rintro ⟨before, split, goesOn⟩
    rcases snoc_split.mp split with ⟨rfl, _, rfl⟩ | ⟨earlier, rfl, rfl⟩
    · exact .inl ⟨rfl, rfl⟩
    · obtain ⟨earlierGoesOn, lastGoesOn⟩ := List.forall_mem_append.mp goesOn
      exact .inr ⟨earlier, rfl, ⟨before, rfl, earlierGoesOn⟩, lastGoesOn last List.mem_cons_self⟩
  · rintro (⟨rfl, rfl⟩ | ⟨earlier, rfl, ⟨before, rfl, goesOn⟩, lastGoesOn⟩)
    · exact ⟨story, rfl, fun _ member => absurd member List.not_mem_nil⟩
    · refine ⟨before, snoc_split.mpr (.inr ⟨earlier, rfl, rfl⟩), ?_⟩
      exact List.forall_mem_append.mpr ⟨goesOn, List.forall_mem_singleton.mpr lastGoesOn⟩

theorem is_open_snoc :
    IsOpen space (story ++ [last]) ↔
      last = .begins space ∨ IsOpen space story ∧ last.closes = false := by
  simp only [IsOpen, under_way_snoc]
  constructor
  · rintro ⟨_, ⟨_, begins⟩ | ⟨earlier, _, underWay, goesOn⟩⟩
    · exact .inl begins
    · exact .inr ⟨⟨earlier, underWay⟩, goesOn⟩
  · rintro (begins | ⟨⟨earlier, underWay⟩, goesOn⟩)
    · exact ⟨[], .inl ⟨rfl, begins⟩⟩
    · exact ⟨_, .inr ⟨earlier, rfl, underWay, goesOn⟩⟩

theorem has_names_snoc :
    HasNames space (story ++ [last]) ↔
      HasNames space story ∧ last.closes = false ∨ IsOpen space story ∧ last = .names space := by
  simp only [HasNames, under_way_snoc]
  constructor
  · rintro ⟨_, ⟨rfl, _⟩ | ⟨earlier, rfl, underWay, goesOn⟩, named⟩
    · cases named
    · rcases List.mem_append.mp named with before | final
      · exact .inl ⟨⟨earlier, underWay, before⟩, goesOn⟩
      · exact .inr ⟨⟨earlier, underWay⟩, (List.mem_singleton.mp final).symm⟩
  · rintro (⟨⟨earlier, underWay, named⟩, goesOn⟩ | ⟨⟨earlier, underWay⟩, rfl⟩)
    · exact ⟨_, .inr ⟨earlier, rfl, underWay, goesOn⟩, List.mem_append_left _ named⟩
    · exact ⟨_, .inr ⟨earlier, rfl, underWay, rfl⟩, by simp⟩

theorem names_delivered_append (delivered : NamesDelivered space story) (further : List Part) :
    NamesDelivered space (story ++ further) := by
  obtain ⟨front, back, rfl, names⟩ := delivered
  exact ⟨front, back ++ further, by simp, names⟩

theorem names_delivered_snoc :
    NamesDelivered space (story ++ [last]) ↔
      NamesDelivered space story ∨ HasNames space story ∧ last = .ends space := by
  constructor
  · rintro ⟨front, back, split, names⟩
    rcases snoc_split.mp split with ⟨rfl, rfl, rfl⟩ | ⟨rest, rfl, rfl⟩
    · exact .inr ⟨names, rfl⟩
    · exact .inl ⟨front, rest, rfl, names⟩
  · rintro (delivered | ⟨names, rfl⟩)
    · exact names_delivered_append delivered [last]
    · exact ⟨story, [], rfl, names⟩

theorem is_open_lost (later : List Part) :
    IsOpen space (story ++ .loses :: later) ↔ IsOpen space later := by
  induction later using List.reverseRecOn with
  | nil => simp [is_open_snoc, Part.closes, not_open_nil]
  | append_singleton later last ih =>
    rw [← List.cons_append, ← List.append_assoc, is_open_snoc, is_open_snoc, ih]

theorem has_names_lost (later : List Part) :
    HasNames space (story ++ .loses :: later) ↔ HasNames space later := by
  induction later using List.reverseRecOn with
  | nil => simp [has_names_snoc, Part.closes, nameless_nil]
  | append_singleton later last ih =>
    rw [← List.cons_append, ← List.append_assoc, has_names_snoc, has_names_snoc, ih, is_open_lost]

theorem names_delivered_lost (later : List Part) :
    NamesDelivered space (story ++ .loses :: later) ↔
      NamesDelivered space story ∨ NamesDelivered space later := by
  induction later using List.reverseRecOn with
  | nil => simp [names_delivered_snoc, undelivered_nil]
  | append_singleton later last ih =>
    rw [← List.cons_append, ← List.append_assoc, names_delivered_snoc, names_delivered_snoc, ih,
      has_names_lost, or_assoc]

end Story

variable {σ : Type} [Sink σ] {recorder next : Recorder σ}

inductive Plays (recorder next : Recorder σ) : Part → Prop where
  | begins (space : SpaceId) (idle : recorder.current = none) (current : next.current = some space)
      (inFrame : next.namesInFrame = false) (named : next.named = recorder.named) :
      Plays recorder next (.begins space)
  | names (space : SpaceId) (isOpen : recorder.current = some space)
      (current : next.current = some space) (inFrame : next.namesInFrame = true)
      (named : next.named = recorder.named) : Plays recorder next (.names space)
  | ends (space : SpaceId) (isOpen : recorder.current = some space) (current : next.current = none)
      (inFrame : next.namesInFrame = false)
      (named : next.named =
        if recorder.namesInFrame then space :: recorder.named else recorder.named) :
      Plays recorder next (.ends space)
  | loses (current : next.current = none) (inFrame : next.namesInFrame = false)
      (named : next.named = recorder.named) : Plays recorder next .loses
  | aside (current : next.current = recorder.current)
      (inFrame : next.namesInFrame = recorder.namesInFrame) (named : next.named = recorder.named) :
      Plays recorder next .aside

omit [Sink σ] in
theorem begin_space_plays (event : EventId) (space : SpaceId) (tileCount : UInt32) :
    Plays recorder (recorder.beginSpace event space tileCount).2
      (partOf (.report (.beginSpace event space tileCount))
        (recorder.beginSpace event space tileCount).1) := by
  rcases begin_space_cases recorder event space tileCount with ⟨error, refused⟩ | ⟨frame, idle, _, done⟩
  · rw [refused]
    exact .aside rfl rfl rfl
  · rw [done]
    exact .begins space idle rfl rfl rfl

omit [Sink σ] in
theorem tile_names_plays (space : SpaceId) (names : List String) :
    Plays recorder (recorder.writeTileNames space names).2
      (partOf (.report (.tileNames space names)) (recorder.writeTileNames space names).1) := by
  unfold writeTileNames
  rcases write_for_cases recorder space (recorder.frame.append (.tileNames space names)) with
    ⟨error, refused, _⟩ | ⟨frame, _, isOpen, done⟩
  · rw [refused]
    exact .aside rfl rfl rfl
  · rw [done]
    exact .names space isOpen isOpen rfl rfl

omit [Sink σ] in
theorem write_for_plays (space : SpaceId) (changed : Except Error FrameBuilder) :
    Plays recorder (recorder.writeFor space changed).2 .aside := by
  rcases write_for_cases recorder space changed with ⟨error, refused, _⟩ | ⟨frame, _, _, done⟩
  · rw [refused]
    exact .aside rfl rfl rfl
  · rw [done]
    exact .aside rfl rfl rfl

omit [Sink σ] in
theorem write_plays (changed : Except Error FrameBuilder) :
    Plays recorder (recorder.write changed).2 .aside := by
  cases changed <;> exact .aside rfl rfl rfl

theorem end_space_plays (space : SpaceId) :
    Plays recorder (recorder.endSpace space).2
      (partOf (.report (.endSpace space)) (recorder.endSpace space).1) := by
  unfold endSpace
  rcases write_for_cases recorder space (recorder.frame.append (.spaceEnd space)) with
    ⟨error, refused, because⟩ | ⟨frame, accepted, isOpen, done⟩
  · have kept : (handedOver (.error error) || dropped (.error error)) = false := by
      rcases because with closed | unfilled
      · rw [handedOver, (check_open_error closed).1, (check_open_error closed).2, Bool.or_self]
      · obtain ⟨block, remaining, rfl⟩ := FrameBuilder.append_error rfl unfilled
        rfl
    rw [refused]
    simp only [partOf, kept]
    exact .aside rfl rfl rfl
  · rw [done]
    dsimp only
    obtain ⟨sink, left, flushed⟩ :=
      flush_keeps { recorder with frame, current := none, namesInFrame := false }
    have settled := flush_frame_settles { recorder with frame, current := none, namesInFrame := false }
      (FrameBuilder.append_closes accepted)
    cases result : flushFrame { recorder with frame, current := none, namesInFrame := false } with
    | mk outcome next =>
      rw [result] at flushed settled
      cases flushed
      cases outcome with
      | error error =>
        simp only [partOf, settled]
        exact .loses rfl rfl rfl
      | ok done =>
        dsimp only
        split
        · rename_i names
          exact .ends space isOpen rfl rfl (by rw [if_pos names])
        · rename_i nameless
          exact .ends space isOpen rfl rfl (by rw [if_neg nameless])

theorem safepoint_plays (event : EventId) : Plays recorder (recorder.safepoint event).2 .aside := by
  unfold safepoint
  split
  · exact .aside rfl rfl rfl
  dsimp only
  cases recorder.frame.append (.safepoint event
      (UInt32.ofNat (min (recorder.eventCount event + 1) largestCount)) recorder.compensation) with
  | error error => exact .aside rfl rfl rfl
  | ok frame =>
    obtain ⟨sink, left, flushed⟩ := flush_keeps { recorder with
      frame
      counts := recorder.counts.insert event (min (recorder.eventCount event + 1) largestCount) }
    simp only [write, flushed]
    exact .aside rfl rfl rfl

theorem shutdown_plays : Plays recorder recorder.sendShutdown.2 .loses := by
  obtain ⟨sink, frame, flushed⟩ := flush_keeps { recorder.discard with frame := ⟨[0x0b], none⟩ }
  rw [send_shutdown_eq, flushed]
  exact .loses rfl rfl rfl

theorem act_plays (action : Action) :
    Plays recorder (recorder.act action).2 (partOf action (recorder.act action).1) := by
  cases action with
  | report call =>
    cases call with
    | beginSpace event space tileCount => exact begin_space_plays event space tileCount
    | tileNames space names => exact tile_names_plays space names
    | streamData space stream kind values => exact write_for_plays space _
    | control space length => exact write_for_plays space _
    | putControl flags => exact write_plays _
    | summary space stream values => exact write_for_plays space _
    | spaceInfo space info => exact write_for_plays space _
    | endSpace space => exact end_space_plays space
    | safepoint event => exact safepoint_plays event
    | startTimer now => exact .aside rfl rfl rfl
    | stopTimer now =>
      change Plays recorder (recorder.stopTimer now) .aside
      unfold stopTimer
      split <;> exact .aside rfl rfl rfl
  | discard => exact .loses rfl rfl rfl
  | shutdown => exact shutdown_plays
  | addCompensation length => exact .aside rfl rfl rfl

def story (recorder : Recorder σ) : List Action → List Part
  | [] => []
  | action :: actions =>
    partOf action (recorder.act action).1 :: (recorder.act action).2.story actions

theorem story_append (recorder : Recorder σ) (front back : List Action) :
    recorder.story (front ++ back) = recorder.story front ++ (recorder.run front).story back := by
  induction front generalizing recorder with
  | nil => rfl
  | cons action front ih => exact congrArg (_ :: ·) (ih (recorder.act action).2)

structure Knows (story : List Part) (recorder : Recorder σ) : Prop where
  current : ∀ space, recorder.current = some space ↔ IsOpen space story
  inFrame : recorder.namesInFrame = true ↔ ∃ space, HasNames space story
  named : ∀ space, space ∈ recorder.named ↔ NamesDelivered space story

section Knows

omit [Sink σ]

variable {story : List Part} {part : Part}

theorem knows_idle (knows : Knows story recorder) (idle : recorder.current = none) (space : SpaceId) :
    ¬IsOpen space story := by
  intro isOpen
  cases idle.symm.trans ((knows.current space).mpr isOpen)

theorem knows_names (knows : Knows story recorder) {space : SpaceId}
    (isOpen : recorder.current = some space) :
    recorder.namesInFrame = true ↔ HasNames space story := by
  rw [knows.inFrame]
  constructor
  · rintro ⟨other, names⟩
    have also := (knows.current other).mpr (names_open names)
    cases isOpen.symm.trans also
    exact names
  · intro names
    exact ⟨space, names⟩

theorem knows_current (knows : Knows story recorder) (plays : Plays recorder next part)
    (space : SpaceId) : next.current = some space ↔ IsOpen space (story ++ [part]) := by
  rw [is_open_snoc]
  cases plays with
  | begins other idle current inFrame named => simp [current, knows_idle knows idle]
  | names other isOpen current inFrame named => simp [current, Part.closes, ← knows.current, isOpen]
  | ends other isOpen current inFrame named => simp [current, Part.closes]
  | loses current inFrame named => simp [current, Part.closes]
  | aside current inFrame named => simp [current, Part.closes, knows.current]

theorem knows_in_frame (knows : Knows story recorder) (plays : Plays recorder next part) :
    next.namesInFrame = true ↔ ∃ space, HasNames space (story ++ [part]) := by
  simp only [has_names_snoc]
  cases plays with
  | begins other idle current inFrame named =>
    have nameless (space : SpaceId) : ¬HasNames space story :=
      fun names => knows_idle knows idle space (names_open names)
    simp [inFrame, nameless]
  | names other isOpen current inFrame named =>
    have open_ := (knows.current other).mp isOpen
    exact ⟨fun _ => ⟨other, .inr ⟨open_, rfl⟩⟩, fun _ => inFrame⟩
  | ends other isOpen current inFrame named => simp [inFrame, Part.closes]
  | loses current inFrame named => simp [inFrame, Part.closes]
  | aside current inFrame named => simp [inFrame, Part.closes, knows.inFrame]

theorem knows_named (knows : Knows story recorder) (plays : Plays recorder next part)
    (space : SpaceId) : space ∈ next.named ↔ NamesDelivered space (story ++ [part]) := by
  rw [names_delivered_snoc, ← knows.named]
  cases plays with
  | begins other idle current inFrame named => simp [named]
  | names other isOpen current inFrame named => simp [named]
  | ends other isOpen current inFrame named =>
    have names := knows_names knows isOpen
    rw [named]
    split
    · rename_i sent
      rw [List.mem_cons, or_comm, Part.ends.injEq]
      constructor
      · rintro (earlier | rfl)
        · exact .inl earlier
        · exact .inr ⟨names.mp sent, rfl⟩
      · rintro (earlier | ⟨_, rfl⟩)
        · exact .inl earlier
        · exact .inr rfl
    · rename_i unsent
      constructor
      · exact .inl
      · rintro (earlier | ⟨others, same⟩)
        · exact earlier
        · cases same
          exact absurd (names.mpr others) unsent
  | loses current inFrame named => simp [named]
  | aside current inFrame named => simp [named]

end Knows

theorem made_knows {start : Recorder σ} (made : Made start) : Knows [] start := by
  obtain ⟨sink, limit, rfl⟩ := made_plain made
  exact ⟨by simp [withLimit, ofSink, not_open_nil], by simp [withLimit, ofSink, nameless_nil],
    by simp [withLimit, ofSink, undelivered_nil]⟩

theorem run_knows {start : Recorder σ} (made : Made start) (actions : List Action) :
    Knows (start.story actions) (start.run actions) := by
  induction actions using List.reverseRecOn with
  | nil => exact made_knows made
  | append_singleton actions last ih =>
    have plays : Plays (start.run actions) ((start.run actions).act last).2 _ := act_plays last
    rw [story_append, run_snoc]
    exact ⟨knows_current ih plays, knows_in_frame ih plays, knows_named ih plays⟩

theorem asked_iff {start : Recorder σ} (made : Made start) (actions : List Action) (space : SpaceId) :
    (start.run actions).needsTileNames space = false ↔
      NamesDelivered space (start.story actions) := by
  rw [← (run_knows made actions).named]
  simp [needsTileNames]

theorem names_asked_until_delivered (start : Recorder σ) (made : Made start) (actions : List Action)
    (space : SpaceId) :
    let recorder := start.run actions
    (recorder.needsTileNames space = false ↔ NamesDelivered space (start.story actions)) ∧
    (recorder.needsTileNames space = false →
      ∀ further, (start.run (actions ++ further)).needsTileNames space = false) ∧
    ∀ action further, partOf action (recorder.act action).1 = .loses →
      ((start.run (actions ++ action :: further)).needsTileNames space = false ↔
        recorder.needsTileNames space = false ∨
          NamesDelivered space ((recorder.act action).2.story further)) := by
  intro recorder
  refine ⟨asked_iff made actions space, ?_, ?_⟩
  · intro answered further
    rw [asked_iff made, story_append]
    exact names_delivered_append ((asked_iff made actions space).mp answered) _
  · intro action further lost
    rw [asked_iff made, asked_iff made, story_append, story, lost, names_delivered_lost]

-- Reports of one space: thrown away, sent without names, and too long with them. Then one of another space
-- is sent without names, and at last the first space is told its own.
theorem names_asked_for_again :
    let start := withLimit MemorySink.unlimited 30
    let begins (space : SpaceId) := Action.report (.beginSpace ⟨0⟩ space 4)
    let names (name : String) := Action.report (.tileNames ⟨3⟩ [name])
    let ends (space : SpaceId) := Action.report (.endSpace space)
    let lost := [begins ⟨3⟩, names "0x0", .discard, begins ⟨3⟩, ends ⟨3⟩,
      begins ⟨3⟩, names "0x0000000000000000", ends ⟨3⟩, begins ⟨5⟩, ends ⟨5⟩]
    let told := [begins ⟨3⟩, names "0x0", ends ⟨5⟩, ends ⟨3⟩]
    Made start ∧ ¬NamesDelivered ⟨3⟩ (start.story lost) ∧
    NamesDelivered ⟨3⟩ (start.story (lost ++ told)) ∧ ¬NamesDelivered ⟨5⟩ (start.story (lost ++ told)) ∧
    ∀ further, (start.run (lost ++ told ++ further)).needsTileNames ⟨3⟩ = false := by
  intro start begins names ends lost told
  have made : Made start := .plain _ _
  have asked : (start.run lost).needsTileNames ⟨3⟩ = true := by decide +kernel
  have answered : (start.run (lost ++ told)).needsTileNames ⟨3⟩ = false := by decide +kernel
  have other : (start.run (lost ++ told)).needsTileNames ⟨5⟩ = true := by decide +kernel
  obtain ⟨before, _⟩ := names_asked_until_delivered start made lost ⟨3⟩
  obtain ⟨after, stays, _⟩ := names_asked_until_delivered start made (lost ++ told) ⟨3⟩
  obtain ⟨untold, _⟩ := names_asked_until_delivered start made (lost ++ told) ⟨5⟩
  refine ⟨made, fun delivered => ?_, after.mp answered, fun delivered => ?_, stays answered⟩
  · cases asked.symm.trans (before.mpr delivered)
  · cases other.symm.trans (untold.mpr delivered)

end HeapScope.Recorder
