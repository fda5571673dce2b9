import HeapScope.Proofs.LinearSpace.Operations

namespace HeapScope

namespace TileFlags

def ofMarks (above separated : Bool) : TileFlags :=
  let allocation : TileFlags := if above then .unused else .used
  if separated then allocation.insert .separator else allocation

theorem marks_shown (above separated : Bool) :
    let flags := ofMarks above separated
    flags.contains .unused = above ∧ flags.contains .used = !above ∧
      flags.contains .separator = separated ∧
      ((flags.remove .used).remove .unused).remove .separator = .empty := by
  cases above <;> cases separated <;> decide

theorem marks_raised (above separated : Bool) :
    ((ofMarks above separated).remove .used).insert .unused = ofMarks true separated := by
  cases above <;> cases separated <;> decide

theorem marks_lowered (above separated : Bool) :
    ((ofMarks above separated).remove .unused).insert .used = ofMarks false separated := by
  cases above <;> cases separated <;> decide

theorem marks_separated (above separated : Bool) :
    (ofMarks above separated).insert .separator = ofMarks above true := by
  cases above <;> cases separated <;> decide

theorem insert_comm (flags first second : TileFlags) :
    (flags.insert first).insert second = (flags.insert second).insert first := by
  refine congrArg mk ?_
  change flags.bits ||| first.bits ||| second.bits = flags.bits ||| second.bits ||| first.bits
  rw [UInt8.or_assoc, UInt8.or_comm first.bits, ← UInt8.or_assoc]

theorem insert_remove {other taken : TileFlags} (apart : other.remove taken = other) (flags : TileFlags) :
    (flags.insert other).remove taken = (flags.remove taken).insert other := by
  have bits : other.bits &&& ~~~taken.bits = other.bits := congrArg TileFlags.bits apart
  have split : (flags.bits ||| other.bits) &&& ~~~taken.bits =
      (flags.bits &&& ~~~taken.bits) ||| (other.bits &&& ~~~taken.bits) := by
    apply UInt8.toNat_inj.mp
    simp only [UInt8.toNat_and, UInt8.toNat_or]
    exact Nat.and_or_distrib_right _ _ _
  rw [bits] at split
  exact congrArg mk split

end TileFlags

namespace LinearSpace

def Call.cursor? : Call → Option UInt64
  | .setCursor address => some address
  | _ => none

def heeded (calls : List Call) : Operation → Except Error Unit → List Call
  | .call .reset, .ok () => []
  | .call (.resize ..), .ok () => []
  | .call call, .ok () => calls ++ [call]
  | _, _ => calls

def recent (space : LinearSpace) (calls : List Call) : List Operation → List Call
  | [] => calls
  | operation :: operations =>
    let answer := space.operate operation
    answer.2.recent (heeded calls operation answer.1) operations

def lastCursor? (calls : List Call) : Option UInt64 := (calls.filterMap Call.cursor?).getLast?

def isAbove (tiling : Tiling) (calls : List Call) (tile : Nat) : Bool :=
  (lastCursor? calls).any fun cursor => cursor.toNat ≤ tiling.tileStart tile

def isSeparated (calls : List Call) (tile : Nat) : Bool := .setSeparator tile ∈ calls

def flagsOf (tiling : Tiling) (calls : List Call) : List TileFlags :=
  (List.range tiling.tileCount).map fun tile =>
    .ofMarks (isAbove tiling calls tile) (isSeparated calls tile)

structure Marked (space : LinearSpace) (calls : List Call) : Prop where
  sound : space.Sound
  cursor : space.cursor = lastCursor? calls
  control : space.control = flagsOf space.tiling calls

variable {space : LinearSpace} {calls : List Call}

theorem last_cursor_snoc (calls : List Call) (call : Call) :
    lastCursor? (calls ++ [call]) = call.cursor?.or (lastCursor? calls) := by
  cases given : call.cursor? <;> simp [lastCursor?, given]

theorem separated_snoc (calls : List Call) (call : Call) (tile : Nat) :
    isSeparated (calls ++ [call]) tile = (isSeparated calls tile || call = .setSeparator tile) := by
  simp [isSeparated, eq_comm]

theorem flags_of_entry (tiling : Tiling) (calls : List Call) (tile : Nat) :
    (flagsOf tiling calls)[tile]? = if tile < tiling.tileCount then
      some (.ofMarks (isAbove tiling calls tile) (isSeparated calls tile)) else none := by
  by_cases counted : tile < tiling.tileCount <;> simp [flagsOf, counted]

theorem flags_of_same {other : List Call} (tiling : Tiling)
    (cursor : lastCursor? other = lastCursor? calls)
    (separators : ∀ tile, isSeparated other tile = isSeparated calls tile) :
    flagsOf tiling other = flagsOf tiling calls := by
  simp only [flagsOf, isAbove, cursor, separators]

theorem started_marked (sound : space.Sound) (cursor : space.cursor = none)
    (blank : space.control = List.replicate space.tiling.tileCount .used) : Marked space [] := by
  refine ⟨sound, cursor, ?_⟩
  rw [blank]
  apply List.ext_getElem?
  intro tile
  rw [flags_of_entry, List.getElem?_replicate]
  rfl

theorem aside_marked (marked : Marked space calls) {next : LinearSpace} (sound : next.Sound)
    (tiling : next.tiling = space.tiling) (control : next.control = space.control)
    (cursor : next.cursor = space.cursor) : Marked next calls :=
  ⟨sound, cursor.trans marked.cursor, by rw [control, tiling, marked.control]⟩

theorem unmarking_marked (marked : Marked space calls) (call : Call) (noCursor : call.cursor? = none)
    (noSeparator : ∀ tile, call ≠ .setSeparator tile) : Marked space (calls ++ [call]) := by
  have last : lastCursor? (calls ++ [call]) = lastCursor? calls := by
    rw [last_cursor_snoc, noCursor, Option.none_or]
  refine ⟨marked.sound, marked.cursor.trans last.symm, ?_⟩
  rw [marked.control]
  refine (flags_of_same space.tiling last fun tile => ?_).symm
  simp [separated_snoc, noSeparator tile]

theorem cursor_marked (marked : Marked space calls) {address : UInt64} {changed : LinearSpace}
    (done : space.setCursor address = .ok changed) : Marked changed (calls ++ [.setCursor address]) := by
  have sound := (set_cursor_keeps marked.sound done).1
  have last : lastCursor? (calls ++ [.setCursor address]) = some address := last_cursor_snoc calls _
  unfold setCursor at done
  split at done
  · cases done
  cases done
  refine ⟨sound, last.symm, List.ext_getElem? fun tile => ?_⟩
  have kept : isSeparated (calls ++ [.setCursor address]) tile = isSeparated calls tile := by
    simp [separated_snoc]
  have above : isAbove space.tiling (calls ++ [.setCursor address]) tile =
      decide (address.toNat ≤ space.tiling.tileStart tile) := by
    rw [isAbove, last]
    rfl
  rw [List.getElem?_mapIdx, marked.control, flags_of_entry, flags_of_entry, kept, above]
  split
  · refine congrArg some ?_
    unfold flagsBelow
    split
    · rename_i behind
      rw [TileFlags.marks_raised, decide_eq_true behind]
    · rename_i before
      rw [TileFlags.marks_lowered, decide_eq_false before]
  · rfl

theorem separator_marked (marked : Marked space calls) {tile : Nat} {changed : LinearSpace}
    (done : space.setSeparator tile = .ok changed) : Marked changed (calls ++ [.setSeparator tile]) := by
  have sound := (set_separator_keeps marked.sound done).1
  have last : lastCursor? (calls ++ [.setSeparator tile]) = lastCursor? calls := last_cursor_snoc calls _
  obtain ⟨_, _, done⟩ := Wire.except_bind_ok done
  cases done
  refine ⟨sound, marked.cursor.trans last.symm, List.ext_getElem? fun other => ?_⟩
  have above : isAbove space.tiling (calls ++ [.setSeparator tile]) other =
      isAbove space.tiling calls other := by
    rw [isAbove, last, isAbove]
  rw [List.getElem?_modify, marked.control, flags_of_entry, flags_of_entry, above, separated_snoc]
  by_cases same : tile = other
  · subst same
    simp [TileFlags.marks_separated]
  · simp [same]

theorem count_unmarked (space : LinearSpace) (tile : Nat) (live : Bool) :
    (space.count tile live).2.control = space.control ∧
      (space.count tile live).2.cursor = space.cursor := by
  unfold count
  split
  · exact ⟨rfl, rfl⟩
  · dsimp only
    cases live with
    | true =>
      rw [if_pos rfl]
      split <;> exact ⟨rfl, rfl⟩
    | false =>
      rw [if_neg Bool.false_ne_true]
      split <;> exact ⟨rfl, rfl⟩

theorem scan_unmarked (space : LinearSpace) (address size : UInt64) (live : Bool) :
    (space.scan address size live).2.control = space.control ∧
      (space.scan address size live).2.cursor = space.cursor := by
  unfold scan
  split
  · exact ⟨rfl, rfl⟩
  · split
    · exact ⟨rfl, rfl⟩
    · exact count_unmarked _ _ live

theorem heeded_refused (calls : List Call) (operation : Operation) (error : Error) :
    heeded calls operation (.error error) = calls := by
  cases operation with
  | call call => cases call <;> rfl
  | setMainSpace | transmit => rfl

theorem operate_marked (marked : Marked space calls) (operation : Operation) :
    Marked (space.operate operation).2 (heeded calls operation (space.operate operation).1) := by
  have sound := operate_sound marked.sound operation
  cases answer : space.operate operation with
  | mk outcome next =>
    rw [answer] at sound
    cases outcome with
    | error error =>
      have unchanged := operate_refused marked.sound operation (congrArg Prod.fst answer)
      rw [answer] at unchanged
      rw [heeded_refused, unchanged]
      exact marked
    | ok done =>
      cases operation with
      | call call =>
        cases call with
        | scan address size live =>
          obtain ⟨control, cursor⟩ := scan_unmarked space address size live
          have tiling := (scan_keeps marked.sound address size live).2.tiling
          rw [show space.scan address size live = _ from answer] at control cursor tiling
          exact unmarking_marked (aside_marked marked sound tiling control cursor) _ rfl nofun
        | resize start stop =>
          obtain ⟨tiling, _, moved⟩ := Wire.except_bind_ok (settle_ok answer)
          obtain ⟨tileCount, _, moved⟩ := Wire.except_bind_ok moved
          cases moved
          exact started_marked sound rfl rfl
        | setCursor address => exact cursor_marked marked (settle_ok answer)
        | setSeparator tile => exact separator_marked marked (settle_ok answer)
        | setInfo info =>
          cases answer
          exact unmarking_marked (aside_marked marked sound rfl rfl rfl) _ rfl nofun
        | reset =>
          cases answer
          refine started_marked sound rfl ?_
          exact congrArg (List.replicate · TileFlags.used) marked.sound.control
      | setMainSpace mainSpace =>
        cases answer
        exact aside_marked marked sound rfl rfl rfl
      | transmit reports reporter event started stopped =>
        cases congrArg Prod.snd answer
        change Marked (space.transmit reporter event started stopped).space calls
        rcases space.transmit_space reporter event started stopped with unmoved | ⟨_, unpended⟩
        · rw [unmoved]
          exact marked
        · rw [unpended]
          exact aside_marked marked { marked.sound with } rfl rfl rfl

theorem run_marked (marked : Marked space calls) (operations : List Operation) :
    Marked (space.run operations) (space.recent calls operations) := by
  induction operations generalizing space calls with
  | nil => exact marked
  | cons operation operations ih => exact ih (operate_marked marked operation)

theorem made_marked {id : SpaceId} {name : String} {start stop blockSize : UInt64}
    (made : make id name start stop blockSize = .ok space) : Marked space [] := by
  have sound := (make_sound made).1
  obtain ⟨tiling, _, made⟩ := Wire.except_bind_ok made
  obtain ⟨tileCount, _, made⟩ := Wire.except_bind_ok made
  cases made
  exact started_marked sound rfl rfl

theorem flags_below_separated (tiling : Tiling) (cursor tile : Nat) (flags : TileFlags) :
    flagsBelow tiling cursor tile (flags.insert .separator) =
      (flagsBelow tiling cursor tile flags).insert .separator := by
  unfold flagsBelow
  split
  · rw [TileFlags.insert_remove (by decide), TileFlags.insert_comm]
  · rw [TileFlags.insert_remove (by decide), TileFlags.insert_comm]

theorem control_commutes (control : List TileFlags) (tiling : Tiling) (cursor tile : Nat) :
    (control.mapIdx (flagsBelow tiling cursor)).modify tile (·.insert .separator) =
      (control.modify tile (·.insert .separator)).mapIdx (flagsBelow tiling cursor) := by
  apply List.ext_getElem?
  intro other
  rw [List.getElem?_modify, List.getElem?_mapIdx, List.getElem?_mapIdx, List.getElem?_modify]
  by_cases same : tile = other <;> cases control[other]? <;> simp [same, flags_below_separated]

theorem operate_cursor (space : LinearSpace) (cursor : UInt64) :
    space.operate (.call (.setCursor cursor)) =
      if space.tiling.start ≤ cursor.toNat ∧ cursor.toNat ≤ space.tiling.stop then
        (.ok (), { space with
          control := space.control.mapIdx (flagsBelow space.tiling cursor.toNat)
          cursor := some cursor })
      else (.error (.addressOutOfRange space.id cursor.toNat), space) := by
  by_cases inside : space.tiling.start ≤ cursor.toNat ∧ cursor.toNat ≤ space.tiling.stop
  · have accepted : ¬(cursor.toNat < space.tiling.start ∨ space.tiling.stop < cursor.toNat) := by omega
    rw [if_pos inside, operate, perform, setCursor, if_neg accepted]
    rfl
  · have refused : cursor.toNat < space.tiling.start ∨ space.tiling.stop < cursor.toNat := by omega
    rw [if_neg inside, operate, perform, setCursor, if_pos refused]
    rfl

theorem operate_separator (space : LinearSpace) (tile : Nat) :
    space.operate (.call (.setSeparator tile)) =
      if tile < space.tiling.tileCount then
        (.ok (), { space with control := space.control.modify tile (·.insert .separator) })
      else (.error (.tileOutOfRange tile space.tiling.tileCount), space) := by
  by_cases counted : tile < space.tiling.tileCount
  · have checked : space.tiling.checkTile tile = .ok () := if_pos counted
    rw [if_pos counted, operate, perform, setSeparator, checked]
    rfl
  · have checked : space.tiling.checkTile tile = .error (.tileOutOfRange tile space.tiling.tileCount) :=
      if_neg counted
    rw [if_neg counted, operate, perform, setSeparator, checked]
    rfl

theorem marks_commute (space : LinearSpace) (cursor : UInt64) (tile : Nat) :
    let place : Operation := .call (.setCursor cursor)
    let draw : Operation := .call (.setSeparator tile)
    ((space.operate draw).2.operate place).1 = (space.operate place).1 ∧
      ((space.operate place).2.operate draw).1 = (space.operate draw).1 ∧
      space.run [draw, place] = space.run [place, draw] := by
  intro place draw
  simp only [place, draw, run, List.foldl_cons, List.foldl_nil, operate_cursor, operate_separator]
  by_cases inside : space.tiling.start ≤ cursor.toNat ∧ cursor.toNat ≤ space.tiling.stop <;>
    by_cases counted : tile < space.tiling.tileCount <;>
      simp [inside, counted, id, control_commutes]

theorem is_above_iff {tiling : Tiling} {tile : Nat} : isAbove tiling calls tile = true ↔
    ∃ cursor, lastCursor? calls = some cursor ∧ cursor.toNat ≤ tiling.tileStart tile := by
  simp [isAbove, Option.any_eq_true]

theorem tiles_above_suffix (tiling : Tiling) (calls : List Call) :
    ∃ border, ∀ tile < tiling.tileCount, isAbove tiling calls tile = true ↔ border ≤ tile := by
  cases last : lastCursor? calls with
  | none =>
    refine ⟨tiling.tileCount, fun tile counted => ?_⟩
    simpa [isAbove, last] using counted
  | some cursor =>
    -- Tiles start as high as one likes, so that one of them is the first that starts above the cursor.
    have reaches : ∃ tile, cursor.toNat ≤ tiling.tileStart tile := by
      refine ⟨cursor.toNat, Nat.le_trans ?_ (Nat.le_add_left _ _)⟩
      exact Nat.le_mul_of_pos_right _ tiling.positive
    refine ⟨Nat.find reaches, fun tile _ => ?_⟩
    simp only [isAbove, last, Option.any_some, decide_eq_true_eq]
    constructor
    · exact Nat.find_min' reaches
    · intro behind
      exact Nat.le_trans (Nat.find_spec reaches) (tiling.tile_start_mono behind)

theorem marked_entry (marked : Marked space calls) {tile : Nat} {flags : TileFlags}
    (found : space.control[tile]? = some flags) : tile < space.tiling.tileCount ∧
      flags = .ofMarks (isAbove space.tiling calls tile) (isSeparated calls tile) := by
  rw [marked.control, flags_of_entry] at found
  split at found
  · rename_i counted
    exact ⟨counted, (Option.some_inj.mp found).symm⟩
  · cases found

theorem marked_alike {other : LinearSpace} {otherCalls : List Call} (marked : Marked space calls)
    (also : Marked other otherCalls) (tiling : other.tiling = space.tiling)
    (cursor : lastCursor? otherCalls = lastCursor? calls) :
    (∀ (tile : Nat) (flags otherFlags : TileFlags), space.control[tile]? = some flags →
      other.control[tile]? = some otherFlags →
        otherFlags.contains .unused = flags.contains .unused ∧
          otherFlags.contains .used = flags.contains .used) ∧
    ((∀ tile, .setSeparator tile ∈ otherCalls ↔ .setSeparator tile ∈ calls) →
      other.control = space.control) := by
  have alike (tile : Nat) : isAbove other.tiling otherCalls tile = isAbove space.tiling calls tile := by
    rw [isAbove, cursor, tiling, isAbove]
  refine ⟨fun tile flags otherFlags found otherFound => ?_, fun separators => ?_⟩
  · obtain ⟨_, rfl⟩ := marked_entry marked found
    obtain ⟨_, rfl⟩ := marked_entry also otherFound
    obtain ⟨unused, used, _⟩ :=
      TileFlags.marks_shown (isAbove space.tiling calls tile) (isSeparated calls tile)
    obtain ⟨otherUnused, otherUsed, _⟩ :=
      TileFlags.marks_shown (isAbove other.tiling otherCalls tile) (isSeparated otherCalls tile)
    exact ⟨by rw [unused, otherUnused, alike], by rw [used, otherUsed, alike]⟩
  · rw [also.control, marked.control, tiling]
    refine flags_of_same space.tiling cursor fun tile => ?_
    simp only [isSeparated, separators]

theorem flags_told_by_marks (id : SpaceId) (name : String) (start stop blockSize : UInt64)
    (space : LinearSpace) (made : make id name start stop blockSize = .ok space)
    (operations : List Operation) :
    let reached := space.run operations
    let calls := space.recent [] operations
    let above (tile : Nat) : Prop :=
      ∃ cursor, lastCursor? calls = some cursor ∧ cursor.toNat ≤ reached.tiling.tileStart tile
    reached.control.length = reached.tiling.tileCount ∧ reached.cursor = lastCursor? calls ∧
    (∀ (tile : Nat) (flags : TileFlags), reached.control[tile]? = some flags →
      (flags.contains .unused = true ↔ above tile) ∧ (flags.contains .used = true ↔ ¬above tile) ∧
      (flags.contains .separator = true ↔ .setSeparator tile ∈ calls) ∧
      ((flags.remove .used).remove .unused).remove .separator = .empty) ∧
    (∀ others : List Operation,
      let other := space.run others
      let otherCalls := space.recent [] others
      other.tiling = reached.tiling → lastCursor? otherCalls = lastCursor? calls →
        (∀ (tile : Nat) (flags otherFlags : TileFlags), reached.control[tile]? = some flags →
          other.control[tile]? = some otherFlags →
            otherFlags.contains .unused = flags.contains .unused ∧
              otherFlags.contains .used = flags.contains .used) ∧
        ((∀ tile, .setSeparator tile ∈ otherCalls ↔ .setSeparator tile ∈ calls) →
          other.control = reached.control)) ∧
    (∃ border, ∀ (tile : Nat) (flags : TileFlags), reached.control[tile]? = some flags →
      (flags.contains .unused = true ↔ border ≤ tile)) ∧
    ∀ cursor tile,
      let place : Operation := .call (.setCursor cursor)
      let draw : Operation := .call (.setSeparator tile)
      ((reached.operate draw).2.operate place).1 = (reached.operate place).1 ∧
        ((reached.operate place).2.operate draw).1 = (reached.operate draw).1 ∧
        reached.run [draw, place] = reached.run [place, draw] := by
  intro reached calls above
  have marked : Marked reached calls := run_marked (made_marked made) operations
  refine ⟨marked.sound.control, marked.cursor, ?_, ?_, ?_, reached.marks_commute⟩
  · intro tile flags found
    obtain ⟨_, rfl⟩ := marked_entry marked found
    obtain ⟨unused, used, separated, others⟩ :=
      TileFlags.marks_shown (isAbove reached.tiling calls tile) (isSeparated calls tile)
    refine ⟨?_, ?_, ?_, others⟩
    · rw [unused, is_above_iff]
    · rw [used, Bool.not_eq_true', ← Bool.not_eq_true, is_above_iff]
    · rw [separated, isSeparated, decide_eq_true_eq]
  · intro others other otherCalls tiling cursor
    exact marked_alike marked (run_marked (made_marked made) others) tiling cursor
  · obtain ⟨border, suffix⟩ := tiles_above_suffix reached.tiling calls
    refine ⟨border, fun tile flags found => ?_⟩
    obtain ⟨counted, rfl⟩ := marked_entry marked found
    rw [(TileFlags.marks_shown _ _).1]
    exact suffix tile counted

-- A separator from before a reset, two cursors within one tile, and three calls that are refused.
theorem later_cursor_counts :
    let operations : List Operation := [.call (.setSeparator 0), .call .reset, .call (.setCursor 64),
      .call (.setSeparator 1), .call (.setCursor 65), .call (.setSeparator 3), .call (.setCursor 151),
      .call (.resize 9 8)]
    let reached (space : LinearSpace) := space.run operations
    ∃ space, make ⟨2⟩ "Main" 0 150 64 = .ok space ∧
      space.recent [] operations = [.setCursor 64, .setSeparator 1, .setCursor 65] ∧
      (reached space).control = [⟨1⟩, ⟨9⟩, ⟨4⟩] ∧
      (¬∃ cursor : UInt64, some 65 = some cursor ∧ cursor.toNat ≤ (reached space).tiling.tileStart 1) ∧
      (reached space).run [.call (.setSeparator 2), .call (.setCursor 0)] =
        (reached space).run [.call (.setCursor 0), .call (.setSeparator 2)] := by
  intro operations reached
  have each (space : LinearSpace) (made : make ⟨2⟩ "Main" 0 150 64 = .ok space) :=
    flags_told_by_marks ⟨2⟩ "Main" 0 150 64 space made operations
  obtain ⟨space, made⟩ : ∃ space, make ⟨2⟩ "Main" 0 150 64 = .ok space := ⟨_, rfl⟩
  obtain ⟨_, _, told, _, _, commutes⟩ := each space made
  have recents : space.recent [] operations = [.setCursor 64, .setSeparator 1, .setCursor 65] := by
    cases made
    decide +kernel
  have flags : (reached space).control = [⟨1⟩, ⟨9⟩, ⟨4⟩] := by
    cases made
    decide +kernel
  have second : (reached space).control[1]? = some ⟨9⟩ := by rw [flags]; rfl
  have below := (told 1 ⟨9⟩ second).2.1.mp (by decide)
  rw [recents] at below
  exact ⟨space, made, recents, flags, below, (commutes 0 2).2.2⟩

end LinearSpace

end HeapScope
