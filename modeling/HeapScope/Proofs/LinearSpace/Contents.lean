import HeapScope.LinearSpace.Transmit
import HeapScope.Proofs.LinearSpace.Invariant
import HeapScope.Proofs.Report.Reports
import HeapScope.Proofs.Session.Replay

namespace HeapScope

open FrameBuilder

namespace LinearSpace

def reportWrites (space : LinearSpace) (withNames : Bool) : List ReportCall :=
  (if withNames then [.tileNames space.id space.tiling.tileLabels] else [])
    ++ space.streams.map
      (fun stream => .streamData space.id stream.descriptor.id stream.kind stream.values)
    ++ [.control space.id space.descriptor.tileCount]
    ++ space.control.map .putControl
    ++ (space.streams.filter (·.descriptor.summary)).map
      (fun stream => .summary space.id stream.descriptor.id stream.summary)
    ++ [.spaceInfo space.id space.infoText]

def reportHead (space : LinearSpace) (withNames : Bool) : List Command :=
  (if withNames then [.tileNames space.id space.tiling.tileLabels] else [])
    ++ space.streams.map
      (fun stream => .streamData space.id stream.descriptor.id stream.kind stream.values)

def reportTail (space : LinearSpace) : List Command :=
  space.streams.map (fun stream => .summary space.id stream.descriptor.id stream.summary)
    ++ [.spaceInfo space.id space.infoText]

def reportBody (space : LinearSpace) (withNames : Bool) : List Command :=
  space.reportHead withNames ++ .control space.id space.control :: space.reportTail

-- The text of a space that was given none: its range, and the total that it reports of its used bytes.
def rangeText (space : LinearSpace) : String :=
  let hex (n : Nat) := "0x" ++ String.ofList (Nat.toDigits 16 n)
  let used := (space.used.summary.headD 0).toInt
  let size := space.tiling.stop - space.tiling.start
  "Start: " ++ hex space.tiling.start ++ "\nEnd: " ++ hex space.tiling.stop ++
    s!"\nUsed: {used} of {size} bytes"

def shownAs (space : LinearSpace) (event : EventId) (text : String) : SpaceSnapshot where
  space := space.id
  event := event
  tileCount := space.descriptor.tileCount
  tileNames := (List.range space.tiling.tileCount).map space.tiling.tileLabel
  streams := ⟨[(⟨0⟩, space.used.values), (⟨1⟩, space.objects.values), (⟨2⟩, space.live.values),
    (⟨3⟩, space.dead.values)]⟩
  control := space.control
  summaries := ⟨[(⟨0⟩, space.used.summary), (⟨1⟩, space.objects.summary),
    (⟨2⟩, space.live.summary), (⟨3⟩, space.dead.summary)]⟩
  info := if text = "" then space.rangeText else text

theorem info_text_shown (space : LinearSpace) :
    space.infoText = if space.info = "" then space.rangeText else space.info := by
  have total : space.used.summary.headD 0 = ValueKind.int.clamp space.used.total := by
    rw [TileStream.summary]
    split <;> rfl
  by_cases untold : space.info = ""
  · rw [infoText, if_pos untold, if_pos (String.isEmpty_iff.mpr untold), rangeText, total]
    rfl
  · rw [infoText, if_neg untold, if_neg (fun empty => untold (String.isEmpty_iff.mp empty))]

theorem report_calls_end (space : LinearSpace) (withNames : Bool) :
    space.reportCalls withNames = space.reportWrites withNames ++ [.endSpace space.id] := by
  simp [reportCalls, reportWrites]

theorem report_writes (space : LinearSpace) (withNames : Bool) :
    ∀ call ∈ space.reportWrites withNames, ∃ write, call.write? = some write := by
  intro call member
  simp only [reportWrites, List.mem_append, List.mem_map, List.mem_singleton] at member
  rcases member with ((((names | ⟨stream, _, rfl⟩) | rfl) | ⟨flags, _, rfl⟩) | ⟨stream, _, rfl⟩) | rfl
  · split at names
    · rw [List.mem_singleton.mp names]
      exact ⟨_, rfl⟩
    · cases names
  all_goals exact ⟨_, rfl⟩

theorem gather_appends (commands : List Command) (more : List FrameBuilder.Call) :
    gather (commands.map .append ++ more) = commands ++ gather more := by
  induction commands with
  | nil => rfl
  | cons command commands ih => rw [List.map_cons, List.cons_append, gather, ih, List.cons_append]

theorem streams_summed {space : LinearSpace} (sound : space.Sound) :
    space.streams.filter (·.descriptor.summary) = space.streams := by
  simp [streams, sound.used.descriptor, sound.objects.descriptor, sound.live.descriptor,
    sound.dead.descriptor, usedStream, objectsStream, liveStream, deadStream, StreamDescriptor.ofKind]

theorem report_gathered {space : LinearSpace} (sound : space.Sound) (withNames : Bool) :
    gather ((space.reportWrites withNames).filterMap ReportCall.write?) = space.reportBody withNames := by
  have entries : (space.control.map ReportCall.putControl).filterMap ReportCall.write? =
      space.control.map FrameBuilder.Call.putControl := by
    rw [List.filterMap_map]
    exact congrFun List.filterMap_eq_map space.control
  have writes : (space.reportWrites withNames).filterMap ReportCall.write? =
      (space.reportHead withNames).map .append ++
        (.beginControl space.id space.descriptor.tileCount :: space.control.map .putControl ++
          space.reportTail.map .append) := by
    rw [reportWrites, streams_summed sound]
    cases withNames <;>
      simp [entries, reportHead, reportTail, streams, ReportCall.write?]
  have full : space.control.length = space.descriptor.tileCount.toNat :=
    sound.control.trans sound.counted.symm
  have tail := gather_appends space.reportTail []
  rw [List.append_nil, gather, List.append_nil] at tail
  rw [writes, gather_appends, gather_block _ _ _ full, tail]
  rfl

theorem body_shows {space : LinearSpace} (sound : space.Sound) (withNames : Bool) (session : Session)
    (event : EventId) :
    session.snapshotOf event space.id space.descriptor.tileCount (space.reportBody withNames) =
      { space.shownAs event space.info with
        tileNames := if withNames then space.tiling.tileLabels
          else session.keptNames space.id space.descriptor.tileCount } := by
  have flags : space.control.map TileFlags.onWire = space.control :=
    (List.map_congr_left fun flags member => TileFlags.plain_on_wire (sound.plain flags member)).trans
      (List.map_id _)
  have body : (space.reportBody withNames).map Command.onWire = space.reportBody withNames := by
    cases withNames <;> simp [reportBody, reportHead, reportTail, streams, Command.onWire, flags]
  have numbers : space.used.descriptor.id = ⟨0⟩ ∧ space.objects.descriptor.id = ⟨1⟩ ∧
      space.live.descriptor.id = ⟨2⟩ ∧ space.dead.descriptor.id = ⟨3⟩ := by
    rw [sound.used.descriptor, sound.objects.descriptor, sound.live.descriptor, sound.dead.descriptor]
    exact ⟨rfl, rfl, rfl, rfl⟩
  obtain ⟨used, objects, live, dead⟩ := numbers
  rw [Session.snapshotOf, body]
  simp only [reportBody, reportHead, reportTail, streams, List.map_cons, List.map_nil, used, objects,
    live, dead]
  rw [shownAs, ← info_text_shown]
  cases withNames <;> rfl

theorem body_shown {space : LinearSpace} (sound : space.Sound) (withNames : Bool) (session : Session)
    (event : EventId) (kept : withNames = false →
      session.keptNames space.id space.descriptor.tileCount = space.tiling.tileLabels) :
    session.snapshotOf event space.id space.descriptor.tileCount (space.reportBody withNames) =
      space.shownAs event space.info := by
  rw [body_shows sound]
  cases withNames with
  | true => rfl
  | false =>
    rw [kept rfl]
    rfl

end LinearSpace

end HeapScope
