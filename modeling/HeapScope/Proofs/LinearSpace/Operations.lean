import HeapScope.Proofs.LinearSpace.Shares
import HeapScope.Proofs.LinearSpace.Invariant

namespace HeapScope.LinearSpace

inductive Operation : Type 1 where
  | call (call : Call)
  | setMainSpace (mainSpace : Bool)
  | transmit {ρ : Type} (reports : Reporter ρ) (reporter : ρ) (event : EventId)
      (started stopped : Duration)

def operate (space : LinearSpace) : Operation → Except Error Unit × LinearSpace
  | .call call => space.perform call
  | .setMainSpace mainSpace => (.ok (), space.withMainSpace mainSpace)
  | .transmit _ reporter event started stopped =>
    let sent := space.transmit reporter event started stopped
    (sent.outcome, sent.space)

def run (space : LinearSpace) (operations : List Operation) : LinearSpace :=
  operations.foldl (fun space operation => (space.operate operation).2) space

def refusal? (space : LinearSpace) : Call → Option Error
  | .scan address _ _ =>
    if space.tiling.start ≤ address.toNat ∧ address.toNat < space.tiling.stop then none
    else some (.addressOutOfRange space.id address.toNat)
  | .resize start stop =>
    if start.toNat ≤ stop.toNat then
      let tiles := (stop.toNat - start.toNat + space.tiling.blockSize - 1) / space.tiling.blockSize
      if tiles < 2 ^ 32 then none else some (.tooManyItems "tiles" tiles)
    else some (.invalidRange start.toNat stop.toNat space.tiling.blockSize)
  | .setCursor address =>
    if space.tiling.start ≤ address.toNat ∧ address.toNat ≤ space.tiling.stop then none
    else some (.addressOutOfRange space.id address.toNat)
  | .setSeparator tile =>
    if tile < space.tiling.tileCount then none
    else some (.tileOutOfRange tile space.tiling.tileCount)
  | .setInfo _ | .reset => none

variable {space : LinearSpace}

theorem scan_counts {tile : Nat} {address size : UInt64}
    (covers : space.tiling.Covers tile address.toNat) {used objects lives deaths : TileStream}
    (spread : space.used.distribute space.tiling address size = (.ok (), used))
    (counted : space.objects.increment tile 1 = .ok objects)
    (lived : space.live.increment tile 1 = .ok lives) (died : space.dead.increment tile 1 = .ok deaths)
    (live : Bool) :
    space.scan address size live = (.ok (), { space with
      used := used
      objects := objects
      live := if live then lives else space.live
      dead := if live then space.dead else deaths }) := by
  simp only [scan, Tiling.index_of_iff.mpr covers, spread, count, counted]
  cases live with
  | true => simp only [lived, if_true]
  | false => simp only [died, Bool.false_eq_true, if_false]

theorem scan_finds (sound : space.Sound) {tile : Nat} {address : UInt64}
    (covers : space.tiling.Covers tile address.toNat) (size : UInt64) (live : Bool) :
    ∃ next, space.scan address size live = (.ok (), next) := by
  have counted := Tiling.covers_counted covers
  have spread := TileStream.distribute_gives space.used covers size (Nat.le_of_eq sound.used.values.symm)
  have objects := space.objects.increment_gives (sound.objects.values.symm ▸ counted) 1
  have lives := space.live.increment_gives (sound.live.values.symm ▸ counted) 1
  have deaths := space.dead.increment_gives (sound.dead.values.symm ▸ counted) 1
  exact ⟨_, scan_counts covers spread objects lives deaths live⟩

theorem scan_misses {address : UInt64}
    (outside : ¬(space.tiling.start ≤ address.toNat ∧ address.toNat < space.tiling.stop))
    (size : UInt64) (live : Bool) :
    space.scan address size live = (.error (.addressOutOfRange space.id address.toNat), space) := by
  have missed : space.tiling.contains address.toNat = false := by
    simpa [Tiling.contains] using outside
  simp only [scan, Tiling.index_of_none_iff.mpr missed]

theorem resize_answers (space : LinearSpace) (start stop : UInt64) :
    space.refusal? (.resize start stop) = none ∧ (∃ moved, space.resize start stop = .ok moved) ∨
      ∃ error, space.refusal? (.resize start stop) = some error ∧
        space.resize start stop = .error error := by
  have positive := space.tiling.positive
  by_cases ordered : start.toNat ≤ stop.toNat
  · obtain ⟨tiling, moved⟩ : ∃ tiling : Tiling, tiling =
        ⟨start.toNat, stop.toNat, space.tiling.blockSize, ordered, stop.toNat_lt, positive⟩ := ⟨_, rfl⟩
    have tiled : Tiling.make start stop space.tiling.blockSize = .ok tiling :=
      moved ▸ dif_pos ⟨positive, ordered⟩
    have asked : space.refusal? (.resize start stop) =
        if tiling.tileCount < 2 ^ 32 then none else some (.tooManyItems "tiles" tiling.tileCount) := by
      rw [moved]
      exact if_pos ordered
    by_cases few : tiling.tileCount < 2 ^ 32
    · have checked : checkTileCount tiling = .ok (UInt32.ofNat tiling.tileCount) := if_pos few
      refine .inl ⟨asked.trans (if_pos few), ?_⟩
      simp only [resize, tiled, checked, bind, Except.bind]
      exact ⟨_, rfl⟩
    · have checked : checkTileCount tiling = .error (.tooManyItems "tiles" tiling.tileCount) := if_neg few
      refine .inr ⟨_, asked.trans (if_neg few), ?_⟩
      simp only [resize, tiled, checked, bind, Except.bind]
  · have refused : Tiling.make start stop space.tiling.blockSize =
        .error (.invalidRange start.toNat stop.toNat space.tiling.blockSize) :=
      dif_neg fun valid => ordered valid.2
    refine .inr ⟨_, if_neg ordered, ?_⟩
    simp only [resize, refused, bind, Except.bind]

theorem settle_ok {old next : LinearSpace} {changed : Except Error LinearSpace}
    (settled : perform.settle old changed = (.ok (), next)) : changed = .ok next := by
  cases changed with
  | error error => cases settled
  | ok changed =>
    cases settled
    rfl

theorem perform_answers (sound : space.Sound) (call : Call) :
    (space.refusal? call = none ∧ (space.perform call).1 = .ok ()) ∨
      ∃ error, space.refusal? call = some error ∧ space.perform call = (.error error, space) := by
  cases call with
  | scan address size live =>
    by_cases inside : space.tiling.start ≤ address.toNat ∧ address.toNat < space.tiling.stop
    · left
      obtain ⟨_, scanned⟩ := scan_finds sound (Tiling.index_covers inside) size live
      simp [refusal?, inside, perform, scanned]
    · right
      simp [refusal?, inside, perform, scan_misses inside]
  | resize start stop =>
    rcases space.resize_answers start stop with ⟨fits, moved, done⟩ | ⟨error, refused, done⟩
    · left
      simp [fits, perform, done, perform.settle]
    · right
      exact ⟨error, refused, by rw [perform, done, perform.settle]⟩
  | setCursor address =>
    by_cases inside : space.tiling.start ≤ address.toNat ∧ address.toNat ≤ space.tiling.stop
    · left
      have fits : ¬(address.toNat < space.tiling.start ∨ space.tiling.stop < address.toNat) := by omega
      simp [refusal?, inside, perform, setCursor, fits, perform.settle]
    · right
      have outside : address.toNat < space.tiling.start ∨ space.tiling.stop < address.toNat := by omega
      simp [refusal?, inside, perform, setCursor, outside, perform.settle]
  | setSeparator tile =>
    by_cases inside : tile < space.tiling.tileCount <;>
      simp [refusal?, inside, perform, setSeparator, Tiling.checkTile, perform.settle, bind, Except.bind,
        pure, Except.pure]
  | setInfo info => exact .inl ⟨rfl, rfl⟩
  | reset => exact .inl ⟨rfl, rfl⟩

theorem operate_refused (sound : space.Sound) (operation : Operation) {error : Error}
    (refused : (space.operate operation).1 = .error error) : (space.operate operation).2 = space := by
  cases operation with
  | call call =>
    rcases perform_answers sound call with ⟨_, done⟩ | ⟨_, _, unchanged⟩
    · rw [operate, done] at refused
      cases refused
    · rw [operate, unchanged]
  | setMainSpace mainSpace => cases refused
  | transmit reports reporter event started stopped =>
    rcases space.transmit_space reporter event started stopped with unmoved | ⟨accepted, _⟩
    · exact unmoved
    · rw [operate, accepted] at refused
      cases refused

theorem operate_sound (sound : space.Sound) (operation : Operation) :
    (space.operate operation).2.Sound := by
  cases operation with
  | call call => exact (perform_range sound call).1
  | setMainSpace mainSpace => exact { sound with }
  | transmit reports reporter event started stopped =>
    rcases space.transmit_space reporter event started stopped with unmoved | ⟨_, unpended⟩
    · rw [operate, unmoved]
      exact sound
    · rw [operate, unpended]
      exact { sound with }

theorem made_block_size {id : SpaceId} {name : String} {start stop blockSize : UInt64}
    (made : make id name start stop blockSize = .ok space) :
    space.tiling.blockSize = blockSize.toNat := by
  obtain ⟨tiling, tiled, made⟩ := Wire.except_bind_ok made
  obtain ⟨tileCount, _, made⟩ := Wire.except_bind_ok made
  cases made
  exact (tiling_make_ok tiled).2.2

theorem operate_block_size (sound : space.Sound) (operation : Operation) :
    (space.operate operation).2.tiling.blockSize = space.tiling.blockSize := by
  cases answer : space.operate operation with
  | mk outcome next =>
    cases outcome with
    | error error =>
      have unchanged := operate_refused sound operation (congrArg Prod.fst answer)
      rw [answer] at unchanged
      rw [unchanged]
    | ok done =>
      cases operation with
      | call call =>
        cases call with
        | scan address size live =>
          have kept := (scan_keeps sound address size live).2.tiling
          rw [show space.scan address size live = _ from answer] at kept
          exact congrArg Tiling.blockSize kept
        | resize start stop =>
          obtain ⟨tiling, tiled, moved⟩ := Wire.except_bind_ok (settle_ok answer)
          obtain ⟨tileCount, _, moved⟩ := Wire.except_bind_ok moved
          cases moved
          exact (tiling_make_ok tiled).2.2
        | setCursor address =>
          exact congrArg Tiling.blockSize (set_cursor_keeps sound (settle_ok answer)).2.tiling
        | setSeparator tile =>
          exact congrArg Tiling.blockSize (set_separator_keeps sound (settle_ok answer)).2.tiling
        | setInfo | reset =>
          cases answer
          rfl
      | setMainSpace mainSpace =>
        cases answer
        rfl
      | transmit reports reporter event started stopped =>
        cases congrArg Prod.snd answer
        rcases space.transmit_space reporter event started stopped with unmoved | ⟨_, unpended⟩
        · exact congrArg (·.tiling.blockSize) unmoved
        · exact congrArg (·.tiling.blockSize) unpended

theorem run_keeps (kept : LinearSpace → Prop)
    (keeps : ∀ space operation, kept space → kept (space.operate operation).2)
    (operations : List Operation) (start : kept space) : kept (space.run operations) := by
  induction operations generalizing space with
  | nil => exact start
  | cons operation operations ih => exact ih (keeps space operation start)

theorem run_sound (sound : space.Sound) (operations : List Operation) : (space.run operations).Sound :=
  run_keeps Sound (fun _ operation sound => operate_sound sound operation) operations sound

theorem run_block_size (sound : space.Sound) (operations : List Operation) :
    (space.run operations).tiling.blockSize = space.tiling.blockSize := by
  have start : space.Sound ∧ space.tiling.blockSize = space.tiling.blockSize := ⟨sound, rfl⟩
  have kept := run_keeps (fun next => next.Sound ∧ next.tiling.blockSize = space.tiling.blockSize)
    (fun _ operation kept => ⟨operate_sound kept.1 operation,
      (operate_block_size kept.1 operation).trans kept.2⟩) operations start
  exact kept.2

structure Firm (space : LinearSpace) : Prop where
  counted : space.descriptor.tileCount.toNat = space.tiling.tileCount
  control : space.control.length = space.tiling.tileCount
  streams : ∀ stream ∈ space.streams, stream.values.length = space.tiling.tileCount
  answered : ∀ call, space.refusal? call = none → (space.perform call).1 = .ok ()
  refused : ∀ call error, space.refusal? call = some error → space.perform call = (.error error, space)
  unchanged : ∀ operation error, (space.operate operation).1 = .error error →
    (space.operate operation).2 = space
  scanned : ∀ address size live tile, space.tiling.indexOf? address.toNat = some tile →
    tile < space.tiling.tileCount ∧ ∃ next, space.scan address size live = (.ok (), next)
  separated : ∀ tile changed, space.setSeparator tile = .ok changed → tile < space.control.length

theorem refused_operations_change_nothing (id : SpaceId) (name : String)
    (start stop blockSize : UInt64) (space : LinearSpace)
    (made : make id name start stop blockSize = .ok space) (operations : List Operation) :
    (space.run operations).Firm := by
  have sound := run_sound (make_sound made).1 operations
  generalize space.run operations = reached at sound ⊢
  refine ⟨sound.counted, sound.control, ?streams, ?answered, ?refused, ?unchanged, ?scanned, ?separated⟩
  case streams =>
    simp [streams, sound.used.values, sound.objects.values, sound.live.values, sound.dead.values]
  case answered =>
    intro call fits
    rcases perform_answers sound call with ⟨_, done⟩ | ⟨error, refused, _⟩
    · exact done
    · rw [fits] at refused
      cases refused
  case refused =>
    intro call error because
    rcases perform_answers sound call with ⟨fits, _⟩ | ⟨other, refused, unchanged⟩
    · rw [fits] at because
      cases because
    · rw [because] at refused
      cases refused
      exact unchanged
  case unchanged =>
    intro operation error
    exact operate_refused sound operation
  case scanned =>
    intro address size live tile found
    have covers := Tiling.index_of_iff.mp found
    exact ⟨Tiling.covers_counted covers, scan_finds sound covers size live⟩
  case separated =>
    intro tile changed done
    obtain ⟨_, checked, _⟩ := Wire.except_bind_ok done
    unfold Tiling.checkTile at checked
    split at checked
    · rename_i inside
      exact sound.control ▸ inside
    · cases checked

-- After calls that were refused and others that were not, an object behind the space, a tile behind its
-- tiles, a range that is turned round and one with more tiles than can be counted.
theorem misplaced_calls_refused :
    let operations : List Operation := [.call (.scan 10 100 true), .call (.scan 5 1 false),
      .call (.resize 64 192), .call (.setCursor 193), .call (.setCursor 100)]
    let reached (space : LinearSpace) := space.run operations
    ∃ space, make ⟨2⟩ "Main" 0 96 64 = .ok space ∧
      (reached space).tiling.indexOf? (150 : UInt64).toNat = some 1 ∧
      (∃ next, (reached space).scan 150 10 true = (.ok (), next)) ∧
      (reached space).perform (.scan 192 1 true) =
        (.error (.addressOutOfRange ⟨2⟩ 192), reached space) ∧
      (reached space).perform (.setSeparator 2) = (.error (.tileOutOfRange 2 2), reached space) ∧
      (reached space).perform (.resize 9 8) = (.error (.invalidRange 9 8 64), reached space) ∧
      (reached space).perform (.resize 0 274877906945) =
        (.error (.tooManyItems "tiles" 4294967297), reached space) := by
  intro operations reached
  have each (space : LinearSpace) (made : make ⟨2⟩ "Main" 0 96 64 = .ok space) :=
    refused_operations_change_nothing ⟨2⟩ "Main" 0 96 64 space made operations
  obtain ⟨space, made⟩ : ∃ space, make ⟨2⟩ "Main" 0 96 64 = .ok space := ⟨_, rfl⟩
  have firm := each space made
  have found : (reached space).tiling.indexOf? (150 : UInt64).toNat = some 1 := by
    cases made
    decide +kernel
  refine ⟨space, made, found, (firm.scanned 150 10 true 1 found).2, ?_, ?_, ?_, ?_⟩
  all_goals
    refine firm.refused _ _ ?_
    cases made
    decide +kernel

end HeapScope.LinearSpace
