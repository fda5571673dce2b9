import HeapScope.Proofs.LinearSpace.Operations

namespace HeapScope

namespace TileStream

theorem blank_tallies {descriptor : StreamDescriptor} {tiles : Nat} {stream : TileStream}
    (suits : Suits descriptor tiles stream) (zero : descriptor.defaultValue = 0)
    (blank : stream.reset = stream) : Tallies tiles (fun _ => 0) stream := by
  rw [← blank, reset, suits.values]
  exact make_tallies (suits.descriptor ▸ zero) tiles

theorem tallies_unique {stream other : TileStream} (alike : stream.descriptor = other.descriptor)
    {tiles : Nat} {amounts : Nat → Nat} (tallies : Tallies tiles amounts stream)
    (also : Tallies tiles amounts other) : stream = other := by
  obtain ⟨descriptor, values⟩ := stream
  cases alike
  exact congrArg (mk other.descriptor) (tallies.trans also.symm)

end TileStream

namespace LinearSpace

structure Object where
  address : UInt64
  size : UInt64
  live : Bool
deriving DecidableEq, Repr

namespace Object

def scan (object : Object) : Operation := .call (.scan object.address object.size object.live)

def startsIn (object : Object) (tiling : Tiling) (tile : Nat) : Bool :=
  tiling.Covers tile object.address.toNat

def isInside (object : Object) (tiling : Tiling) : Bool :=
  tiling.start ≤ object.address.toNat && object.address.toNat < tiling.stop

end Object

structure Walk where
  space : LinearSpace
  -- The objects that were accepted since the space was made, moved or reset.
  shown : List Object

namespace Walk

def ofSpace (space : LinearSpace) : Walk := ⟨space, []⟩

def shownAfter (shown : List Object) : Operation → Except Error Unit → List Object
  | .call (.scan address size live), .ok () => shown ++ [⟨address, size, live⟩]
  | .call (.resize ..), .ok () => []
  | .call .reset, .ok () => []
  | _, _ => shown

def after (walk : Walk) (operation : Operation) : Walk :=
  let answer := walk.space.operate operation
  ⟨answer.2, shownAfter walk.shown operation answer.1⟩

def run (walk : Walk) (operations : List Operation) : Walk := operations.foldl after walk

def bytesIn (shown : List Object) (tiling : Tiling) (tile : Nat) : Nat :=
  (shown.map fun object => tiling.share object.address object.size tile).sum

def objectsIn (shown : List Object) (tiling : Tiling) (tile : Nat) : Nat :=
  shown.countP (·.startsIn tiling tile)

def liveIn (shown : List Object) (tiling : Tiling) (tile : Nat) : Nat :=
  shown.countP fun object => object.live && object.startsIn tiling tile

def deadIn (shown : List Object) (tiling : Tiling) (tile : Nat) : Nat :=
  shown.countP fun object => !object.live && object.startsIn tiling tile

structure AddsUp (walk : Walk) : Prop where
  sound : walk.space.Sound
  small : walk.space.tiling.blockSize < 2 ^ 63
  inside : ∀ object ∈ walk.shown, object.isInside walk.space.tiling = true
  used : walk.space.used.Tallies walk.space.tiling.tileCount (bytesIn walk.shown walk.space.tiling)
  objects : walk.space.objects.Tallies walk.space.tiling.tileCount (objectsIn walk.shown walk.space.tiling)
  live : walk.space.live.Tallies walk.space.tiling.tileCount (liveIn walk.shown walk.space.tiling)
  dead : walk.space.dead.Tallies walk.space.tiling.tileCount (deadIn walk.shown walk.space.tiling)

variable {walk : Walk}

theorem run_space (walk : Walk) (operations : List Operation) :
    (walk.run operations).space = walk.space.run operations := by
  induction operations generalizing walk with
  | nil => rfl
  | cons operation operations ih => exact ih (walk.after operation)

theorem started_adds_up {space : LinearSpace} (sound : space.Sound)
    (small : space.tiling.blockSize < 2 ^ 63) (blank : ∀ stream ∈ space.streams, stream.reset = stream) :
    (ofSpace space).AddsUp := by
  simp only [streams, List.mem_cons, List.not_mem_nil, or_false, forall_eq_or_imp, forall_eq] at blank
  obtain ⟨used, objects, live, dead⟩ := blank
  exact ⟨sound, small, by simp [ofSpace], TileStream.blank_tallies sound.used rfl used,
    TileStream.blank_tallies sound.objects rfl objects, TileStream.blank_tallies sound.live rfl live,
    TileStream.blank_tallies sound.dead rfl dead⟩

theorem aside_adds_up (adds : walk.AddsUp) {next : LinearSpace} (sound : next.Sound)
    (tiling : next.tiling = walk.space.tiling) (streams : next.streams = walk.space.streams) :
    AddsUp ⟨next, walk.shown⟩ := by
  simp only [LinearSpace.streams, List.cons.injEq, and_true] at streams
  obtain ⟨used, objects, live, dead⟩ := streams
  refine ⟨sound, ?_, ?_, ?_, ?_, ?_, ?_⟩
  · exact tiling ▸ adds.small
  · exact tiling ▸ adds.inside
  · simpa only [tiling, used] using adds.used
  · simpa only [tiling, objects] using adds.objects
  · simpa only [tiling, live] using adds.live
  · simpa only [tiling, dead] using adds.dead

theorem resize_adds_up (adds : walk.AddsUp) {start stop : UInt64} {moved : LinearSpace}
    (done : walk.space.resize start stop = .ok moved) : (ofSpace moved).AddsUp := by
  have sound := (resize_ok done adds.sound).1
  obtain ⟨tiling, tiled, done⟩ := Wire.except_bind_ok done
  obtain ⟨tileCount, _, done⟩ := Wire.except_bind_ok done
  cases done
  have sameSize : tiling.blockSize = walk.space.tiling.blockSize := (tiling_make_ok tiled).2.2
  refine started_adds_up sound (sameSize ▸ adds.small) ?_
  simp [streams, TileStream.resize]

theorem reset_adds_up (adds : walk.AddsUp) : (ofSpace walk.space.reset).AddsUp := by
  refine started_adds_up (reset_keeps adds.sound).1 adds.small ?_
  have again (stream : TileStream) : stream.reset.reset = stream.reset := TileStream.reset_make _ _
  simp [streams, LinearSpace.reset, again]

theorem scan_adds_up (adds : walk.AddsUp) (object : Object) {tile : Nat}
    (covers : walk.space.tiling.Covers tile object.address.toNat) :
    ∃ next, walk.space.operate object.scan = (.ok (), next) ∧
      AddsUp ⟨next, walk.shown ++ [object]⟩ := by
  have starts (other : Nat) : object.startsIn walk.space.tiling other = decide (tile = other) := by
    by_cases same : tile = other
    · simpa [Object.startsIn, ← same] using covers
    · have apart : ¬walk.space.tiling.Covers other object.address.toNat :=
        fun also => same (Tiling.covers_unique covers also)
      simp [Object.startsIn, same, apart]
  have inside := Tiling.covers_counted covers
  have found : object.isInside walk.space.tiling = true := by
    simpa [Object.isInside] using Tiling.covers_inside covers
  have sound := operate_sound adds.sound object.scan
  obtain ⟨used, spread, usedTallies⟩ :=
    TileStream.distribute_tallies adds.used rfl adds.small covers object.size
  obtain ⟨objects, counted, objectsTally⟩ := TileStream.increment_tallies adds.objects inside
  obtain ⟨lives, lived, livesTally⟩ := TileStream.increment_tallies adds.live inside
  obtain ⟨deaths, died, deathsTally⟩ := TileStream.increment_tallies adds.dead inside
  have scanned : walk.space.operate object.scan = _ :=
    scan_counts covers spread counted lived died object.live
  rw [scanned] at sound
  refine ⟨_, scanned, sound, adds.small, ?_, ?_, ?_, ?_, ?_⟩
  · intro other member
    rcases List.mem_append.mp member with earlier | now
    · exact adds.inside other earlier
    · exact List.mem_singleton.mp now ▸ found
  · have summed : bytesIn (walk.shown ++ [object]) walk.space.tiling = fun tile =>
        bytesIn walk.shown walk.space.tiling tile +
          walk.space.tiling.share object.address object.size tile := by
      funext tile
      simp [bytesIn]
    simpa only [summed] using usedTallies
  · have summed : objectsIn (walk.shown ++ [object]) walk.space.tiling = fun other =>
        objectsIn walk.shown walk.space.tiling other + if tile = other then 1 else 0 := by
      funext other
      simp [objectsIn, starts]
    simpa only [summed] using objectsTally
  · cases alive : object.live with
    | true =>
      have summed : liveIn (walk.shown ++ [object]) walk.space.tiling = fun other =>
          liveIn walk.shown walk.space.tiling other + if tile = other then 1 else 0 := by
        funext other
        simp [liveIn, starts, alive]
      simpa only [summed, if_true] using livesTally
    | false =>
      have summed : liveIn (walk.shown ++ [object]) walk.space.tiling =
          liveIn walk.shown walk.space.tiling := by
        funext other
        simp [liveIn, alive]
      simpa only [summed, Bool.false_eq_true, if_false] using adds.live
  · cases alive : object.live with
    | true =>
      have summed : deadIn (walk.shown ++ [object]) walk.space.tiling =
          deadIn walk.shown walk.space.tiling := by
        funext other
        simp [deadIn, alive]
      simpa only [summed, if_true] using adds.dead
    | false =>
      have summed : deadIn (walk.shown ++ [object]) walk.space.tiling = fun other =>
          deadIn walk.shown walk.space.tiling other + if tile = other then 1 else 0 := by
        funext other
        simp [deadIn, starts, alive]
      simpa only [summed, Bool.false_eq_true, if_false] using deathsTally

theorem cursor_adds_up (adds : walk.AddsUp) {address : UInt64} {changed : LinearSpace}
    (done : walk.space.setCursor address = .ok changed) : AddsUp ⟨changed, walk.shown⟩ := by
  have sound := (set_cursor_keeps adds.sound done).1
  unfold setCursor at done
  split at done
  · cases done
  · cases done
    exact aside_adds_up adds sound rfl rfl

theorem separator_adds_up (adds : walk.AddsUp) {tile : Nat} {changed : LinearSpace}
    (done : walk.space.setSeparator tile = .ok changed) : AddsUp ⟨changed, walk.shown⟩ := by
  have sound := (set_separator_keeps adds.sound done).1
  obtain ⟨_, _, done⟩ := Wire.except_bind_ok done
  cases done
  exact aside_adds_up adds sound rfl rfl

theorem transmit_adds_up (adds : walk.AddsUp) {ρ : Type} [Reporter ρ] (reporter : ρ) (event : EventId)
    (started stopped : Duration) :
    AddsUp ⟨(walk.space.transmit reporter event started stopped).space, walk.shown⟩ := by
  rcases walk.space.transmit_space reporter event started stopped with unmoved | ⟨_, unpended⟩
  · rw [unmoved]
    exact adds
  · rw [unpended]
    exact aside_adds_up adds { adds.sound with } rfl rfl

theorem after_refused (sound : walk.space.Sound) {operation : Operation} {error : Error}
    (refused : (walk.space.operate operation).1 = .error error) : walk.after operation = walk := by
  have unchanged := operate_refused sound operation refused
  have same : shownAfter walk.shown operation (.error error) = walk.shown := by
    cases operation with
    | call call => cases call <;> rfl
    | setMainSpace | transmit => rfl
  rw [after, refused, same, unchanged]

theorem after_adds_up (adds : walk.AddsUp) (operation : Operation) : (walk.after operation).AddsUp := by
  cases answer : walk.space.operate operation with
  | mk outcome next =>
    cases outcome with
    | error error =>
      rw [after_refused adds.sound (congrArg Prod.fst answer)]
      exact adds
    | ok done =>
      have sound := operate_sound adds.sound operation
      rw [answer] at sound
      rw [after, answer]
      cases operation with
      | call call =>
        cases call with
        | scan address size live =>
          by_cases inside :
              walk.space.tiling.start ≤ address.toNat ∧ address.toNat < walk.space.tiling.stop
          · obtain ⟨next, scanned, summed⟩ :=
              scan_adds_up adds ⟨address, size, live⟩ (Tiling.index_covers inside)
            cases answer.symm.trans scanned
            exact summed
          · cases answer.symm.trans (scan_misses inside size live)
        | resize start stop => exact resize_adds_up adds (settle_ok answer)
        | setCursor address => exact cursor_adds_up adds (settle_ok answer)
        | setSeparator tile => exact separator_adds_up adds (settle_ok answer)
        | setInfo info =>
          cases answer
          exact aside_adds_up adds sound rfl rfl
        | reset =>
          cases answer
          exact reset_adds_up adds
      | setMainSpace mainSpace =>
        cases answer
        exact aside_adds_up adds sound rfl rfl
      | transmit reports reporter event started stopped =>
        cases congrArg Prod.snd answer
        exact transmit_adds_up adds reporter event started stopped

theorem run_adds_up (adds : walk.AddsUp) (operations : List Operation) :
    (walk.run operations).AddsUp := by
  induction operations generalizing walk with
  | nil => exact adds
  | cons operation operations ih => exact ih (after_adds_up adds operation)

theorem made_adds_up {id : SpaceId} {name : String} {start stop blockSize : UInt64}
    {space : LinearSpace} (made : make id name start stop blockSize = .ok space)
    (small : blockSize.toNat < 2 ^ 63) : (ofSpace space).AddsUp := by
  have sameSize := made_block_size made
  refine started_adds_up (make_sound made).1 (sameSize ▸ small) ?_
  obtain ⟨tiling, _, made⟩ := Wire.except_bind_ok made
  obtain ⟨tileCount, _, made⟩ := Wire.except_bind_ok made
  cases made
  simp [streams]

theorem permuted_streams {other : Walk} (adds : walk.AddsUp) (also : other.AddsUp)
    (tiling : other.space.tiling = walk.space.tiling) (permuted : other.shown.Perm walk.shown) :
    other.space.streams = walk.space.streams := by
  have bytes : bytesIn other.shown walk.space.tiling = bytesIn walk.shown walk.space.tiling :=
    funext fun tile => (permuted.map _).sum_eq
  have objects : objectsIn other.shown walk.space.tiling = objectsIn walk.shown walk.space.tiling :=
    funext fun tile => permuted.countP_eq _
  have lives : liveIn other.shown walk.space.tiling = liveIn walk.shown walk.space.tiling :=
    funext fun tile => permuted.countP_eq _
  have deaths : deadIn other.shown walk.space.tiling = deadIn walk.shown walk.space.tiling :=
    funext fun tile => permuted.countP_eq _
  obtain ⟨sound, _, _, usedTallies, objectsTally, livesTally, deathsTally⟩ := also
  rw [tiling, bytes] at usedTallies
  rw [tiling, objects] at objectsTally
  rw [tiling, lives] at livesTally
  rw [tiling, deaths] at deathsTally
  have used : other.space.used.descriptor = walk.space.used.descriptor := by
    rw [sound.used.descriptor, tiling, adds.sound.used.descriptor]
  have objects := sound.objects.descriptor.trans adds.sound.objects.descriptor.symm
  have lives := sound.live.descriptor.trans adds.sound.live.descriptor.symm
  have deaths := sound.dead.descriptor.trans adds.sound.dead.descriptor.symm
  simp only [streams, TileStream.tallies_unique used usedTallies adds.used,
    TileStream.tallies_unique objects objectsTally adds.objects,
    TileStream.tallies_unique lives livesTally adds.live,
    TileStream.tallies_unique deaths deathsTally adds.dead]

theorem scan_shown (sound : walk.space.Sound) (object : Object) :
    ((walk.space.operate object.scan).1 = .ok () ↔ object.isInside walk.space.tiling = true) ∧
      (walk.after object.scan).shown =
        walk.shown ++ if object.isInside walk.space.tiling then [object] else [] := by
  by_cases inside : walk.space.tiling.start ≤ object.address.toNat ∧
      object.address.toNat < walk.space.tiling.stop
  · obtain ⟨next, scanned⟩ := scan_finds sound (Tiling.index_covers inside) object.size object.live
    have accepted : walk.space.operate object.scan = (.ok (), next) := scanned
    have found : object.isInside walk.space.tiling = true := by simpa [Object.isInside] using inside
    rw [after, accepted, found]
    exact ⟨by simp, rfl⟩
  · have refused : walk.space.operate object.scan =
        (.error (.addressOutOfRange walk.space.id object.address.toNat), walk.space) :=
      scan_misses inside object.size object.live
    have missed : object.isInside walk.space.tiling = false := by simpa [Object.isInside] using inside
    rw [after, refused, missed]
    exact ⟨by simp, by simp [shownAfter, Object.scan]⟩

theorem scans_shown (sound : walk.space.Sound) (scans : List Object) :
    (walk.run (scans.map Object.scan)).space.tiling = walk.space.tiling ∧
      (walk.run (scans.map Object.scan)).shown =
        walk.shown ++ scans.filter (·.isInside walk.space.tiling) := by
  induction scans generalizing walk with
  | nil => simp [run]
  | cons object scans ih =>
    have kept := scan_keeps sound object.address object.size object.live
    have next : (walk.after object.scan).space.Sound := operate_sound sound object.scan
    obtain ⟨tiling, shown⟩ := ih next
    have same : (walk.after object.scan).space.tiling = walk.space.tiling := kept.2.tiling
    rw [same] at tiling shown
    refine ⟨tiling, shown.trans ?_⟩
    rw [(scan_shown sound object).2, List.filter_cons, List.append_assoc]
    split <;> rfl

theorem scans_add_up (id : SpaceId) (name : String) (start stop blockSize : UInt64)
    (small : blockSize.toNat < 2 ^ 63) (space : LinearSpace)
    (made : make id name start stop blockSize = .ok space) (operations : List Operation) :
    let walk := (ofSpace space).run operations
    let tiling := walk.space.tiling
    let tiles := List.range tiling.tileCount
    walk.space = space.run operations ∧
    (∀ object : Object,
      (walk.space.operate object.scan).1 = .ok () ↔ object.isInside tiling = true) ∧
    walk.space.used.values.map Int32.toInt =
      tiles.map (fun tile => min 2147483647 (bytesIn walk.shown tiling tile : Int)) ∧
    walk.space.objects.values.map Int32.toInt =
      tiles.map (fun tile => min 32767 (objectsIn walk.shown tiling tile : Int)) ∧
    walk.space.live.values.map Int32.toInt =
      tiles.map (fun tile => min 32767 (liveIn walk.shown tiling tile : Int)) ∧
    walk.space.dead.values.map Int32.toInt =
      tiles.map (fun tile => min 32767 (deadIn walk.shown tiling tile : Int)) ∧
    (∀ others : List Operation,
      let other := (ofSpace space).run others
      other.space.tiling = tiling → other.shown.Perm walk.shown →
        other.space.streams = walk.space.streams) ∧
    ∀ scans reordered : List Object, reordered.Perm scans →
      (walk.space.run (reordered.map Object.scan)).streams =
        (walk.space.run (scans.map Object.scan)).streams := by
  intro walk tiling tiles
  have adds : walk.AddsUp := run_adds_up (made_adds_up made small) operations
  have used : walk.space.used.kind = .int := by rw [TileStream.kind, adds.sound.used.descriptor]; rfl
  have objects : walk.space.objects.kind = .short := by
    rw [TileStream.kind, adds.sound.objects.descriptor]
    rfl
  have lives : walk.space.live.kind = .short := by rw [TileStream.kind, adds.sound.live.descriptor]; rfl
  have deaths : walk.space.dead.kind = .short := by rw [TileStream.kind, adds.sound.dead.descriptor]; rfl
  refine ⟨run_space _ _, fun object => (scan_shown adds.sound object).1, ?_, ?_, ?_, ?_, ?_, ?_⟩
  · rw [TileStream.tallies_shown adds.used, used]
    rfl
  · rw [TileStream.tallies_shown adds.objects, objects]
    rfl
  · rw [TileStream.tallies_shown adds.live, lives]
    rfl
  · rw [TileStream.tallies_shown adds.dead, deaths]
    rfl
  · intro others other same permuted
    exact permuted_streams adds (run_adds_up (made_adds_up made small) others) same permuted
  · intro scans reordered permuted
    obtain ⟨tiling, shown⟩ := scans_shown adds.sound scans
    obtain ⟨sameTiling, also⟩ := scans_shown adds.sound reordered
    rw [← run_space, ← run_space]
    refine permuted_streams (run_adds_up adds _) (run_adds_up adds _) (sameTiling.trans tiling.symm) ?_
    rw [shown, also]
    exact (permuted.filter _).append_left walk.shown

-- Two objects that overlap, one that starts behind the space and one from before a reset.
theorem overlapping_objects_add_up :
    let operations : List Operation := [.call (.scan 5 5 false), .call .reset, .call (.setCursor 80),
      .call (.scan 10 100 true), .call (.scan 70 40 false), .call (.scan 96 8 true)]
    let walk (space : LinearSpace) := (ofSpace space).run operations
    let scans : List Object := [⟨10, 100, true⟩, ⟨70, 40, false⟩]
    ∃ space, make ⟨2⟩ "Main" 0 96 64 = .ok space ∧ (64 : UInt64).toNat < 2 ^ 63 ∧
      (walk space).shown = scans ∧ scans.reverse.Perm scans ∧
      (walk space).space.used.values.map Int32.toInt = [54, 58] ∧
      ((walk space).space.run (scans.reverse.map Object.scan)).streams =
        ((walk space).space.run (scans.map Object.scan)).streams := by
  intro operations walk scans
  have small : (64 : UInt64).toNat < 2 ^ 63 := by decide
  have turned : scans.reverse.Perm scans := List.reverse_perm scans
  have each (space : LinearSpace) (made : make ⟨2⟩ "Main" 0 96 64 = .ok space) :=
    scans_add_up ⟨2⟩ "Main" 0 96 64 small space made operations
  obtain ⟨space, made⟩ : ∃ space, make ⟨2⟩ "Main" 0 96 64 = .ok space := ⟨_, rfl⟩
  obtain ⟨_, _, used, _, _, _, _, permuted⟩ := each space made
  have same := permuted scans scans.reverse turned
  refine ⟨space, made, small, ?_, turned, ?_, same⟩
  · cases made
    decide +kernel
  · rw [used]
    cases made
    decide +kernel

end Walk

end LinearSpace

end HeapScope
