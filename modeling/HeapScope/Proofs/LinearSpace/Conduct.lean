import HeapScope.Proofs.LinearSpace.Contents
import HeapScope.Proofs.Report.Conduct

namespace HeapScope

namespace TileStream

def Held (stream : TileStream) : Prop := ∀ value ∈ stream.values, stream.kind.holds value = true

def Defaults (descriptor : StreamDescriptor) : Prop :=
  descriptor.kind.holds descriptor.defaultValue = true

variable {stream : TileStream}

theorem make_held {descriptor : StreamDescriptor} (defaults : Defaults descriptor) (tiles : Nat) :
    Held (make descriptor tiles) := by
  intro value member
  rw [List.eq_of_mem_replicate member]
  exact defaults

theorem increment_held (held : stream.Held) {tile : Nat} {amount : Int} {next : TileStream}
    (done : stream.increment tile amount = .ok next) : next.Held := by
  obtain ⟨value, _, done⟩ := Wire.except_bind_ok done
  unfold set at done
  split at done
  · cases done
    intro other member
    rcases List.mem_or_eq_of_mem_set member with before | now
    · exact held other before
    · rw [now]
      exact stream.kind.clamp_held _
  · cases done

theorem spread_held (kind : ValueKind) (tiling : Tiling) (stop tile address : Nat) (values : List Int32)
    (held : ∀ value ∈ values, kind.holds value = true) :
    ∀ value ∈ (spread kind tiling stop tile address values).1, kind.holds value = true := by
  induction values generalizing tile address with
  | nil => simp [spread]
  | cons first values ih =>
    have others := fun value member => held value (List.mem_cons_of_mem first member)
    unfold spread
    split
    · intro value member
      rcases List.mem_cons.mp member with rfl | later
      · exact kind.clamp_held _
      · exact ih _ _ others value later
    · exact held

theorem distribute_held (held : stream.Held) (tiling : Tiling) (address size : UInt64) :
    (stream.distribute tiling address size).2.Held := by
  unfold distribute
  split
  · exact held
  · rename_i first _
    have spreads := spread_held stream.kind tiling (min (address.toNat + size.toNat) tiling.stop) first
      address.toNat (stream.values.drop first) fun value member => held value (List.mem_of_mem_drop member)
    have changed : ({ stream with values := stream.values.take first ++ (spread stream.kind tiling
        (min (address.toNat + size.toNat) tiling.stop) first address.toNat
        (stream.values.drop first)).1 } : TileStream).Held := by
      intro value member
      rcases List.mem_append.mp member with front | back
      · exact held value (List.mem_of_mem_take front)
      · exact spreads value back
    dsimp only
    split <;> exact changed

end TileStream

namespace Digits

theorem letters_size (letters : List Char) :
    (String.ofList letters).utf8ByteSize ≤ 4 * letters.length := by
  induction letters with
  | nil => simp
  | cons letter letters ih =>
    have most := letter.utf8Size_le_four
    rw [String.ofList_cons, String.utf8ByteSize_append, String.utf8ByteSize_singleton, List.length_cons]
    omega

theorem digits_size {base count n : Nat} (wide : 1 < base) (some : 0 < count) (small : n < base ^ count) :
    (String.ofList (Nat.toDigits base n)).utf8ByteSize ≤ 4 * count := by
  have few := (Nat.length_toDigits_le_iff wide some).mpr small
  have letters := letters_size (Nat.toDigits base n)
  omega

theorem int_size {n : Int} {count : Nat} (some : 0 < count) (small : n.natAbs < 10 ^ count) :
    n.repr.utf8ByteSize ≤ 1 + 4 * count := by
  cases n with
  | ofNat n =>
    have digits := digits_size (by decide) some small
    exact Nat.le_trans digits (by omega)
  | negSucc n =>
    have digits := digits_size (by decide) some small
    have sign : "-".utf8ByteSize = 1 := by decide
    rw [Int.repr, String.utf8ByteSize_append, sign]
    exact Nat.add_le_add_left digits 1

end Digits

namespace Tiling

theorem hex_text_short {n : Nat} (wide : n < 2 ^ 64) : (Hex.text n).utf8ByteSize ≤ 66 := by
  have digits : (Hex.digits n).utf8ByteSize ≤ 4 * 16 :=
    Digits.digits_size (by decide) (by decide) (Nat.lt_of_lt_of_le wide (by decide))
  have mark : "0x".utf8ByteSize = 2 := by decide
  rw [Hex.text, String.utf8ByteSize_append, mark]
  omega

theorem tile_label_short (tiling : Tiling) {index : Nat} (tile : index < tiling.tileCount) :
    (tiling.tileLabel index).utf8ByteSize < 256 ^ 2 := by
  have inside : index * tiling.blockSize ≤ tiling.length := by
    have most : tiling.tileCount * tiling.blockSize ≤ tiling.length + tiling.blockSize - 1 :=
      Nat.div_mul_le_self _ _
    have next : (index + 1) * tiling.blockSize ≤ tiling.tileCount * tiling.blockSize :=
      Nat.mul_le_mul_right _ tile
    rw [Nat.add_mul] at next
    have positive := tiling.positive
    omega
  have bounded := tiling.bounded
  have ordered := tiling.ordered
  have first : tiling.tileStart index < 2 ^ 64 := by
    unfold tileStart
    unfold length at inside
    omega
  have last : tiling.tileEnd index < 2 ^ 64 := by
    unfold tileEnd
    omega
  have front := hex_text_short first
  have back := hex_text_short last
  have dash : "-".utf8ByteSize = 1 := by decide
  rw [tileLabel, String.utf8ByteSize_append, String.utf8ByteSize_append, dash]
  omega

end Tiling

namespace LinearSpace

structure Held (space : LinearSpace) : Prop where
  used : space.used.Held
  objects : space.objects.Held
  live : space.live.Held
  dead : space.dead.Held

theorem used_defaults (blockSize : Nat) : TileStream.Defaults (usedStream blockSize) :=
  (by decide : ValueKind.int.holds 0 = true)

theorem counts_default :
    TileStream.Defaults objectsStream ∧ TileStream.Defaults liveStream ∧ TileStream.Defaults deadStream :=
  have zero : ValueKind.short.holds 0 = true := by decide
  ⟨zero, zero, zero⟩

theorem start_held {space : LinearSpace} (sound : space.Sound) (used objects live dead : Nat) :
    (space.used.resize used).Held ∧ (space.objects.resize objects).Held ∧
      (space.live.resize live).Held ∧ (space.dead.resize dead).Held := by
  obtain ⟨objectsDefault, liveDefault, deadDefault⟩ := counts_default
  refine ⟨TileStream.make_held ?_ used, TileStream.make_held ?_ objects,
    TileStream.make_held ?_ live, TileStream.make_held ?_ dead⟩
  · exact sound.used.descriptor ▸ used_defaults space.tiling.blockSize
  · exact sound.objects.descriptor ▸ objectsDefault
  · exact sound.live.descriptor ▸ liveDefault
  · exact sound.dead.descriptor ▸ deadDefault

theorem make_held {id : SpaceId} {name : String} {start stop blockSize : UInt64} {space : LinearSpace}
    (made : make id name start stop blockSize = .ok space) : space.Held := by
  obtain ⟨tiling, _, made⟩ := Wire.except_bind_ok made
  obtain ⟨tileCount, _, made⟩ := Wire.except_bind_ok made
  cases made
  obtain ⟨objects, live, dead⟩ := counts_default
  exact ⟨TileStream.make_held (used_defaults _) _, TileStream.make_held objects _,
    TileStream.make_held live _, TileStream.make_held dead _⟩

theorem count_held {space : LinearSpace} (held : space.Held) (tile : Nat) (live : Bool) :
    (space.count tile live).2.Held := by
  unfold count
  split
  · exact held
  · rename_i objects counted
    have objectsHeld := TileStream.increment_held held.objects counted
    dsimp only
    cases live with
    | true =>
      rw [if_pos rfl]
      split
      · exact { held with objects := objectsHeld }
      · rename_i live done
        exact { held with objects := objectsHeld, live := TileStream.increment_held held.live done }
    | false =>
      rw [if_neg Bool.false_ne_true]
      split
      · exact { held with objects := objectsHeld }
      · rename_i dead done
        exact { held with objects := objectsHeld, dead := TileStream.increment_held held.dead done }

theorem scan_held {space : LinearSpace} (held : space.Held) (address size : UInt64) (live : Bool) :
    (space.scan address size live).2.Held := by
  unfold scan
  split
  · exact held
  · rename_i tile _
    have usedHeld := TileStream.distribute_held held.used space.tiling address size
    generalize space.used.distribute space.tiling address size = spread at usedHeld
    obtain ⟨outcome, used⟩ := spread
    cases outcome with
    | error error => exact { held with used := usedHeld }
    | ok done =>
      have counting : Held { space with used } := { held with used := usedHeld }
      exact count_held counting tile live

theorem perform_held {space : LinearSpace} (sound : space.Sound) (held : space.Held) (call : Call) :
    (space.perform call).2.Held := by
  cases call with
  | scan address size live => exact scan_held held address size live
  | resize start stop =>
    rw [perform]
    cases done : space.resize start stop with
    | error error => exact held
    | ok moved =>
      obtain ⟨tiling, _, done⟩ := Wire.except_bind_ok done
      obtain ⟨tileCount, _, done⟩ := Wire.except_bind_ok done
      cases done
      obtain ⟨used, objects, live, dead⟩ := start_held sound tiling.tileCount tiling.tileCount
        tiling.tileCount tiling.tileCount
      exact ⟨used, objects, live, dead⟩
  | setCursor address =>
    rw [perform]
    cases done : space.setCursor address with
    | error error => exact held
    | ok changed =>
      unfold setCursor at done
      split at done
      · cases done
      · cases done
        exact { held with }
  | setSeparator tile =>
    rw [perform]
    cases done : space.setSeparator tile with
    | error error => exact held
    | ok changed =>
      obtain ⟨_, _, done⟩ := Wire.except_bind_ok done
      cases done
      exact { held with }
  | setInfo info => exact { held with }
  | reset =>
    obtain ⟨used, objects, live, dead⟩ := start_held sound space.used.values.length
      space.objects.values.length space.live.values.length space.dead.values.length
    exact ⟨used, objects, live, dead⟩

def reportSize (space : LinearSpace) (event : EventId) (withNames : Bool) : Nat :=
  ((Parcel.report event space.id space.descriptor.tileCount (space.reportBody withNames)).commands.map
    Command.wireSize).sum

variable {limit events : Nat}

theorem tells_conduct (limit events : Nat) (report : OpenReport) (filled : report.unfilled = 0) (calls : List ReportCall)
    (commands : List Command)
    (writes : calls.map ReportCall.write? = commands.map fun command => some (.append command))
    (fits : ∀ command ∈ commands, command.TellsOf report.space ∧ command.inRange = true)
    (roomy : Roomy limit (report.size + (commands.map Command.wireSize).sum)) :
    calls.foldlM (conductAfter limit events) (some report) =
      some (some { report with size := report.size + (commands.map Command.wireSize).sum }) := by
  induction calls generalizing report commands with
  | nil =>
    cases commands with
    | nil => rfl
    | cons command commands => cases writes
  | cons call calls ih =>
    cases commands with
    | nil => cases writes
    | cons command commands =>
      obtain ⟨named, others⟩ := List.cons.inj writes
      obtain ⟨tells, inRange⟩ := fits command List.mem_cons_self
      rw [List.map_cons, List.sum_cons, ← Nat.add_assoc] at roomy ⊢
      have grown : report.grow limit command.wireSize =
          some { report with size := report.size + command.wireSize } :=
        if_pos ⟨by have := roomy.1; omega, by have := roomy.2; omega⟩
      have written : report.write limit report.space command =
          some { report with size := report.size + command.wireSize } :=
        (if_pos ⟨rfl, filled, inRange⟩).trans grown
      have followed : conductAfter limit events (some report) call =
          some (some { report with size := report.size + command.wireSize }) := by
        cases call <;> cases named <;> cases tells <;>
          simp only [conductAfter, Option.bind_some, written, Option.map_some]
      rw [List.foldlM_cons, followed]
      exact ih { report with size := report.size + command.wireSize } filled commands others
        (fun other member => fits other (List.mem_cons_of_mem command member)) roomy

theorem fills_conduct (limit events : Nat) (report : OpenReport) (flags : List TileFlags)
    (lacks : report.unfilled = flags.length) (roomy : Roomy limit (report.size + flags.length)) :
    (flags.map ReportCall.putControl).foldlM (conductAfter limit events) (some report) =
      some (some { report with unfilled := 0, size := report.size + flags.length }) := by
  induction flags generalizing report with
  | nil =>
    obtain ⟨space, unfilled, size⟩ := report
    obtain rfl : unfilled = 0 := lacks
    rfl
  | cons first flags ih =>
    rw [List.length_cons] at lacks roomy
    have grown : report.grow limit 1 = some { report with size := report.size + 1 } :=
      if_pos ⟨by have := roomy.1; omega, by have := roomy.2; omega⟩
    have followed : conductAfter limit events (some report) (.putControl first) =
        some (some { report with unfilled := report.unfilled - 1, size := report.size + 1 }) := by
      simp only [conductAfter, Option.bind_some, if_neg (by omega : ¬report.unfilled = 0), grown,
        Option.map_some]
    have rest := ih { report with unfilled := report.unfilled - 1, size := report.size + 1 }
      (by change report.unfilled - 1 = flags.length; omega)
      (by rw [Nat.add_assoc, Nat.add_comm 1]; exact roomy)
    rw [List.map_cons, List.foldlM_cons, followed]
    refine rest.trans ?_
    rw [Nat.add_assoc, Nat.add_comm 1]
    rfl

theorem lists_fit {space : LinearSpace} (sound : space.Sound) (held : space.Held) (withNames : Bool) :
    ∀ command ∈ space.reportHead withNames ++
        space.streams.map (fun stream => .summary space.id stream.descriptor.id stream.summary),
      command.TellsOf space.id ∧ command.inRange = true ∧ command.counted = true := by
  have few : space.tiling.tileCount < 256 ^ 4 := sound.counted ▸ space.descriptor.tileCount.toNat_lt
  have streams : ∀ stream ∈ space.streams, stream.Held ∧ stream.values.length < 256 ^ 4 := by
    intro stream member
    simp only [LinearSpace.streams, List.mem_cons, List.not_mem_nil, or_false] at member
    rcases member with rfl | rfl | rfl | rfl
    · exact ⟨held.used, sound.used.values ▸ few⟩
    · exact ⟨held.objects, sound.objects.values ▸ few⟩
    · exact ⟨held.live, sound.live.values ▸ few⟩
    · exact ⟨held.dead, sound.dead.values ▸ few⟩
  have summed (stream : TileStream) : stream.summary.length < 256 ^ 4 := by
    unfold TileStream.summary
    split <;> simp
  intro command member
  simp only [reportHead, List.mem_append, List.mem_map] at member
  rcases member with (names | ⟨stream, member, rfl⟩) | ⟨stream, member, rfl⟩
  · split at names
    · rw [List.mem_singleton.mp names]
      refine ⟨rfl, List.all_eq_true.mpr ?_, decide_eq_true ?_⟩
      · intro label listed
        obtain ⟨index, tile, rfl⟩ := List.mem_map.mp listed
        exact decide_eq_true (space.tiling.tile_label_short (List.mem_range.mp tile))
      · simpa [Tiling.tileLabels] using few
    · cases names
  · obtain ⟨values, counted⟩ := streams stream member
    exact ⟨rfl, List.all_eq_true.mpr values, decide_eq_true counted⟩
  · exact ⟨rfl, rfl, decide_eq_true (summed stream)⟩

theorem body_fits {space : LinearSpace} (sound : space.Sound) (held : space.Held)
    (told : space.infoText.utf8ByteSize < 256 ^ 2) (withNames : Bool) :
    ∀ command ∈ space.reportHead withNames ++ space.reportTail,
      command.TellsOf space.id ∧ command.inRange = true := by
  intro command member
  rw [reportTail, ← List.append_assoc] at member
  rcases List.mem_append.mp member with list | info
  · obtain ⟨tells, inRange, _⟩ := lists_fit sound held withNames command list
    exact ⟨tells, inRange⟩
  · rw [List.mem_singleton.mp info]
    exact ⟨rfl, decide_eq_true told⟩

theorem report_size_parts (space : LinearSpace) (event : EventId) (withNames : Bool) :
    space.reportSize event withNames = 8 + ((space.reportHead withNames).map Command.wireSize).sum +
      (6 + space.control.length) + (space.reportTail.map Command.wireSize).sum + 2 := by
  simp only [reportSize, Parcel.commands, reportBody, List.map_cons, List.map_append, List.sum_cons,
    List.sum_append, List.map_nil, List.sum_nil, Command.wireSize]
  omega

theorem report_size_names (space : LinearSpace) (event : EventId) (withNames : Bool) :
    space.reportSize event withNames ≤ space.reportSize event true := by
  cases withNames with
  | true => exact Nat.le_refl _
  | false =>
    rw [report_size_parts, report_size_parts]
    simp only [reportHead, if_true, Bool.false_eq_true, if_false, List.nil_append, List.map_append,
      List.sum_append]
    omega

theorem begin_conduct (space : LinearSpace) {event : EventId} (known : event.index < events)
    (roomy : Roomy limit (space.reportSize event true)) :
    conductAfter limit events none (.beginSpace event space.id space.descriptor.tileCount) =
      some (some ⟨space.id, 0, 8⟩) := by
  rw [report_size_parts] at roomy
  have room : Roomy limit 8 := ⟨Nat.le_trans (by omega) roomy.1, by decide⟩
  have opened : OpenReport.grow ⟨space.id, 0, 0⟩ limit
      (Command.spaceBegin space.id event space.descriptor.tileCount).wireSize =
        some ⟨space.id, 0, 8⟩ := if_pos room
  rw [conductAfter, if_pos ⟨rfl, known⟩, opened, Option.map_some]

def headCalls (space : LinearSpace) (withNames : Bool) : List ReportCall :=
  (if withNames then [.tileNames space.id space.tiling.tileLabels] else [])
    ++ space.streams.map
      (fun stream => .streamData space.id stream.descriptor.id stream.kind stream.values)

def tailCalls (space : LinearSpace) : List ReportCall :=
  space.streams.map (fun stream => .summary space.id stream.descriptor.id stream.summary)
    ++ [.spaceInfo space.id space.infoText]

theorem report_calls_parts {space : LinearSpace} (sound : space.Sound) (withNames : Bool) :
    space.reportCalls withNames = space.headCalls withNames
      ++ .control space.id space.descriptor.tileCount :: (space.control.map .putControl
        ++ (space.tailCalls ++ [.endSpace space.id])) := by
  simp [reportCalls, headCalls, tailCalls, streams_summed sound]

theorem report_conduct {space : LinearSpace} (sound : space.Sound) (held : space.Held)
    (told : space.infoText.utf8ByteSize < 256 ^ 2) (event : EventId)
    (roomy : Roomy limit (space.reportSize event true)) (withNames : Bool) :
    (space.reportCalls withNames).foldlM (conductAfter limit events) (some ⟨space.id, 0, 8⟩) =
      some none := by
  have fits := body_fits sound held told withNames
  have size := space.report_size_names event withNames
  rw [report_size_parts space event withNames] at size
  generalize headSize : ((space.reportHead withNames).map Command.wireSize).sum = head at size
  generalize tailSize : (space.reportTail.map Command.wireSize).sum = tail at size
  generalize tiles : space.control.length = filled at size
  have room (early : Nat) (before : early ≤ 8 + head + (6 + filled) + tail + 2) : Roomy limit early :=
    have within := Nat.le_trans before size
    ⟨Nat.le_trans within roomy.1, Nat.lt_of_le_of_lt within roomy.2⟩
  have heads : (space.headCalls withNames).foldlM (conductAfter limit events) (some ⟨space.id, 0, 8⟩) =
      some (some ⟨space.id, 0, 8 + head⟩) := by
    have told := tells_conduct limit events ⟨space.id, 0, 8⟩ rfl
      (space.headCalls withNames) (space.reportHead withNames)
      (by cases withNames <;> simp [headCalls, reportHead, ReportCall.write?])
      (fun command member => fits command (List.mem_append_left _ member))
    rw [headSize] at told
    exact told (room (8 + head) (by omega))
  have opened : conductAfter limit events (some ⟨space.id, 0, 8 + head⟩)
      (.control space.id space.descriptor.tileCount) = some (some ⟨space.id, filled, 8 + head + 6⟩) := by
    have counted : space.descriptor.tileCount.toNat = filled :=
      (sound.counted.trans sound.control.symm).trans tiles
    have written : OpenReport.write ⟨space.id, 0, 8 + head⟩ limit space.id (.control space.id []) =
        some ⟨space.id, 0, 8 + head + 6⟩ :=
      (if_pos ⟨rfl, rfl, rfl⟩).trans (if_pos (room (8 + head + 6) (by omega)))
    simp only [conductAfter, Option.bind_some, written, Option.map_some, counted]
  have fills : (space.control.map ReportCall.putControl).foldlM (conductAfter limit events)
      (some ⟨space.id, filled, 8 + head + 6⟩) = some (some ⟨space.id, 0, 8 + head + 6 + filled⟩) := by
    have filling := fills_conduct limit events ⟨space.id, filled, 8 + head + 6⟩
      space.control tiles.symm
    rw [tiles] at filling
    exact filling (room (8 + head + 6 + filled) (by omega))
  have tails : space.tailCalls.foldlM (conductAfter limit events)
      (some ⟨space.id, 0, 8 + head + 6 + filled⟩) =
        some (some ⟨space.id, 0, 8 + head + 6 + filled + tail⟩) := by
    have told := tells_conduct limit events
      ⟨space.id, 0, 8 + head + 6 + filled⟩ rfl space.tailCalls space.reportTail
      (by simp [tailCalls, reportTail, ReportCall.write?])
      (fun command member => fits command (List.mem_append_right _ member))
    rw [tailSize] at told
    exact told (room (8 + head + 6 + filled + tail) (by omega))
  have ended : conductAfter limit events (some ⟨space.id, 0, 8 + head + 6 + filled + tail⟩)
      (.endSpace space.id) = some none := by
    have written : OpenReport.write ⟨space.id, 0, 8 + head + 6 + filled + tail⟩ limit space.id
        (.spaceEnd space.id) = some ⟨space.id, 0, 8 + head + 6 + filled + tail + 2⟩ :=
      (if_pos ⟨rfl, rfl, rfl⟩).trans (if_pos (room (8 + head + 6 + filled + tail + 2) (by omega)))
    simp only [conductAfter, Option.bind_some, written, Option.map_some]
  rw [report_calls_parts sound, List.foldlM_append, heads]
  change List.foldlM (conductAfter limit events) (some ⟨space.id, 0, 8 + head⟩) _ = _
  rw [List.foldlM_cons, opened]
  change List.foldlM (conductAfter limit events) (some ⟨space.id, filled, 8 + head + 6⟩) _ = _
  rw [List.foldlM_append, fills]
  change List.foldlM (conductAfter limit events) (some ⟨space.id, 0, 8 + head + 6 + filled⟩) _ = _
  rw [List.foldlM_append, tails]
  change List.foldlM (conductAfter limit events) (some ⟨space.id, 0, _⟩) _ = _
  rw [List.foldlM_cons, ended]
  rfl

end LinearSpace

end HeapScope
