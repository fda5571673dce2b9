import HeapScope.Proofs.Report.Frames
import HeapScope.Proofs.Session.Snapshot

namespace HeapScope

namespace Session

def snapshotOf (session : Session) (event : EventId) (space : SpaceId) (tileCount : UInt32)
    (body : List Command) : SpaceSnapshot :=
  (body.map Command.onWire).foldl SpaceSnapshot.shows
    (.start space event tileCount (session.keptNames space tileCount))

def afterParcel (session : Session) : Parcel → Session
  | .shutdown => { session with shutDown := true }
  | .safepoint event count compensation =>
    let record := ⟨event, count, compensation.microseconds⟩
    { session with safepoints := session.safepoints ++ [record] }
  | .report event space tileCount body =>
    let report := session.snapshotOf event space tileCount body
    { session with spaces := session.spaces.insert space report }

def ofParcels (parcels : List Parcel) : Session := parcels.foldl afterParcel .start

def replay (session : Session) : List FrameSplitter.Result → Except Error Session
  | [] => .ok session
  | .error error :: _ => .error error
  | .ok commands :: results =>
    match session.applyAll commands with
    | (.ok (), session) => session.replay results
    | (.error error, _) => .error error

theorem of_parcels_append (parcels : List Parcel) (parcel : Parcel) :
    ofParcels (parcels ++ [parcel]) = (ofParcels parcels).afterParcel parcel := by
  rw [ofParcels, List.foldl_append]
  rfl

theorem after_parcel_space (session : Session) (parcel : Parcel) (space : SpaceId)
    (other : ∀ event tileCount body, parcel ≠ .report event space tileCount body) :
    (session.afterParcel parcel).space? space = session.space? space := by
  cases parcel with
  | shutdown => rfl
  | safepoint => rfl
  | report event named tileCount body =>
    have different : space ≠ named := by
      rintro rfl
      exact other event tileCount body rfl
    exact Table.get_insert_of_ne session.spaces named space _ different

theorem after_parcel_reported (session : Session) (event : EventId) (space : SpaceId)
    (tileCount : UInt32) (body : List Command) :
    (session.afterParcel (.report event space tileCount body)).space? space =
      some (session.snapshotOf event space tileCount body) :=
  Table.get_insert_self session.spaces space _

theorem apply_tells {session : Session} {report : SpaceSnapshot} {command : Command}
    (is : session.current = some report) (tells : command.TellsOf report.space) :
    session.apply command.onWire =
      .ok { session with current := some (report.shows command.onWire) } := by
  have updated {space : SpaceId} (change : SpaceSnapshot → SpaceSnapshot) (same : space = report.space) :
      session.update space change = .ok { session with current := some (change report) } := by
    rw [update, is]
    exact if_pos same.symm
  cases command with
  | tileNames | streamData | control | summary | spaceInfo => exact updated _ tells
  | _ => cases tells

theorem apply_all_cons {session next : Session} {command : Command}
    (accepted : session.apply command = .ok next) (commands : List Command) :
    session.applyAll (command :: commands) = next.applyAll commands := by
  rw [applyAll, accepted]

theorem apply_body {session : Session} (report : SpaceSnapshot) (is : session.current = some report)
    (body rest : List Command) (tell : ∀ command ∈ body, command.TellsOf report.space) :
    session.applyAll (body.map Command.onWire ++ rest) =
      applyAll { session with
        current := some ((body.map Command.onWire).foldl SpaceSnapshot.shows report) } rest := by
  induction body generalizing session report with
  | nil => rw [List.map_nil, List.nil_append, List.foldl_nil, ← is]
  | cons command body ih =>
    have tells := tell command List.mem_cons_self
    have others : ∀ other ∈ body, other.TellsOf (report.shows command.onWire).space := by
      rw [SpaceSnapshot.shows_space]
      exact fun other member => tell other (List.mem_cons_of_mem command member)
    rw [List.map_cons, List.cons_append, apply_all_cons (apply_tells is tells)]
    exact ih _ rfl others

theorem apply_parcel (session : Session) (idle : session.current = none) (parcel : Parcel)
    (formed : parcel.WellFormed) :
    session.applyAll (parcel.commands.map Command.onWire) = (.ok (), session.afterParcel parcel) := by
  cases parcel with
  | shutdown => rfl
  | safepoint event count compensation =>
    have same : compensation.onWire.microseconds = compensation.microseconds :=
      Duration.microseconds_of_microseconds _ compensation.microseconds_lt
    rw [afterParcel, ← same]
    rfl
  | report event space tileCount body =>
    have begun : session.apply (.spaceBegin space event tileCount) =
        .ok { session with
          current := some (.start space event tileCount (session.keptNames space tileCount)) } := by
      rw [apply, beginSpace, idle]
    have ended : ({ session with current := some (session.snapshotOf event space tileCount body) } :
          Session).apply (.spaceEnd space) =
        .ok (session.afterParcel (.report event space tileCount body)) := by
      have same : (session.snapshotOf event space tileCount body).space = space :=
        SpaceSnapshot.body_keeps (·.space) SpaceSnapshot.shows_space _ _
      rw [apply, endSpace]
      dsimp only
      rw [if_pos same, afterParcel, idle]
    rw [Parcel.commands, List.map_cons, List.map_append]
    refine (apply_all_cons begun _).trans ?_
    refine (apply_body (.start space event tileCount _) rfl body _ formed).trans ?_
    exact apply_all_cons ended []

theorem after_parcel_idle (session : Session) (idle : session.current = none) (parcel : Parcel) :
    (session.afterParcel parcel).current = none := by
  cases parcel <;> exact idle

theorem replay_parcels (session : Session) (idle : session.current = none) (parcels : List Parcel)
    (formed : ∀ parcel ∈ parcels, parcel.WellFormed) :
    session.replay (parcels.map fun parcel => .ok (parcel.commands.map Command.onWire)) =
      .ok (parcels.foldl afterParcel session) := by
  induction parcels generalizing session with
  | nil => rfl
  | cons parcel parcels ih =>
    have applied := apply_parcel session idle parcel (formed parcel List.mem_cons_self)
    have others := fun other member => formed other (List.mem_cons_of_mem parcel member)
    rw [List.map_cons, replay, applied]
    exact ih _ (after_parcel_idle session idle parcel) others

variable {σ : Type} [Sink σ]

theorem replay_taken {view : SinkView σ} (reliable : view.Reliable) {limit viewerLimit : Nat}
    {recorder : Recorder σ} {journal : Journal} (tracks : Tracks view [] limit recorder journal)
    (wide : limit ≤ viewerLimit) :
    Session.start.replay
        (((FrameSplitter.ofLimit viewerLimit).feed (view.taken recorder.sink)).drain) =
      .ok (ofParcels journal.parcels) := by
  obtain ⟨payloads, written, fit, decoded, taken, _, whole | ⟨spent, _⟩⟩ := tracks.sent
  · have fits : ∀ payload ∈ payloads, FitsFrame viewerLimit payload := fun payload member =>
      ⟨Nat.le_trans (fit payload member).1 wide, (fit payload member).2⟩
    have all := FrameSplitter.drain_frames viewerLimit payloads [] fits
    have done : FrameSplitter.drain ⟨viewerLimit, []⟩ = [] := FrameSplitter.drain_waits _ rfl
    rw [done, List.append_nil, List.append_nil, decoded] at all
    rw [FrameSplitter.ofLimit, FrameSplitter.feed, List.nil_append, taken, List.nil_append, whole, all]
    exact replay_parcels .start rfl journal.parcels tracks.formed
  · exact absurd spent (reliable.unspent _ tracks.usable)

end Session

end HeapScope
