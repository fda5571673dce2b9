import HeapScope.LinearSpace.Transmit
import HeapScope.Proofs.Wire.Commands

namespace HeapScope

namespace TileFlags

def Plain (flags : TileFlags) : Prop := flags.bits.toNat < 32

theorem plain_on_wire {flags : TileFlags} (plain : flags.Plain) : flags.onWire = flags := by
  have masked : flags.bits &&& 0x1f = flags.bits := by
    apply UInt8.toNat_inj.mp
    rw [UInt8.toNat_and]
    exact (Nat.and_two_pow_sub_one_eq_mod _ 5).trans (Nat.mod_eq_of_lt plain)
  rw [onWire, masked]

theorem insert_plain {flags other : TileFlags} (plain : flags.Plain) (others : other.Plain) :
    (flags.insert other).Plain := by
  change (flags.bits ||| other.bits).toNat < 2 ^ 5
  rw [UInt8.toNat_or]
  exact Nat.or_lt_two_pow plain others

theorem remove_plain {flags : TileFlags} (plain : flags.Plain) (other : TileFlags) :
    (flags.remove other).Plain := by
  change (flags.bits &&& ~~~other.bits).toNat < 32
  rw [UInt8.toNat_and]
  exact Nat.lt_of_le_of_lt Nat.and_le_left plain

end TileFlags

namespace TileStream

structure Suits (descriptor : StreamDescriptor) (tiles : Nat) (stream : TileStream) : Prop where
  descriptor : stream.descriptor = descriptor
  values : stream.values.length = tiles

theorem make_suits (descriptor : StreamDescriptor) (tiles : Nat) :
    Suits descriptor tiles (make descriptor tiles) :=
  ⟨rfl, List.length_replicate⟩

variable {descriptor : StreamDescriptor} {tiles : Nat} {stream : TileStream}

theorem reset_suits (suits : Suits descriptor tiles stream) : Suits descriptor tiles stream.reset := by
  obtain ⟨rfl, rfl⟩ := suits
  exact make_suits stream.descriptor stream.values.length

theorem increment_suits (suits : Suits descriptor tiles stream) {tile : Nat} {amount : Int}
    {next : TileStream} (done : stream.increment tile amount = .ok next) :
    Suits descriptor tiles next := by
  obtain ⟨value, _, done⟩ := Wire.except_bind_ok done
  unfold set at done
  split at done
  · cases done
    exact ⟨suits.descriptor, List.length_set.trans suits.values⟩
  · cases done

theorem distribute_suits (suits : Suits descriptor tiles stream) (tiling : Tiling)
    (address size : UInt64) : Suits descriptor tiles (stream.distribute tiling address size).2 := by
  refine ⟨?_, (distribute_length stream tiling address size).trans suits.values⟩
  rw [← suits.descriptor]
  unfold distribute
  split
  · rfl
  · dsimp only
    split <;> rfl

end TileStream

namespace LinearSpace

structure Sound (space : LinearSpace) : Prop where
  counted : space.descriptor.tileCount.toNat = space.tiling.tileCount
  used : space.used.Suits (usedStream space.tiling.blockSize) space.tiling.tileCount
  objects : space.objects.Suits objectsStream space.tiling.tileCount
  live : space.live.Suits liveStream space.tiling.tileCount
  dead : space.dead.Suits deadStream space.tiling.tileCount
  control : space.control.length = space.tiling.tileCount
  plain : ∀ flags ∈ space.control, flags.Plain

structure SameRange (space next : LinearSpace) : Prop where
  descriptor : next.descriptor = space.descriptor
  tiling : next.tiling = space.tiling
  namesPending : next.namesPending = space.namesPending

theorem check_tile_count_ok {tiling : Tiling} {tileCount : UInt32}
    (checked : checkTileCount tiling = .ok tileCount) : tileCount.toNat = tiling.tileCount := by
  unfold checkTileCount at checked
  split at checked
  · rename_i small
    cases checked
    exact UInt32.toNat_ofNat_of_lt' small
  · cases checked

theorem tiling_make_ok {start stop : UInt64} {blockSize : Nat} {tiling : Tiling}
    (made : Tiling.make start stop blockSize = .ok tiling) :
    tiling.start = start.toNat ∧ tiling.stop = stop.toNat ∧ tiling.blockSize = blockSize := by
  unfold Tiling.make at made
  split at made
  · cases made
    exact ⟨rfl, rfl, rfl⟩
  · cases made

theorem replicate_plain (tiles : Nat) : ∀ flags ∈ List.replicate tiles TileFlags.used, flags.Plain := by
  intro flags member
  rw [List.eq_of_mem_replicate member]
  exact (by decide : 1 < 32)

theorem make_sound {id : SpaceId} {name : String} {start stop blockSize : UInt64} {space : LinearSpace}
    (made : make id name start stop blockSize = .ok space) :
    space.Sound ∧ space.id = id ∧ space.namesPending = true := by
  obtain ⟨tiling, tiled, made⟩ := Wire.except_bind_ok made
  obtain ⟨tileCount, checked, made⟩ := Wire.except_bind_ok made
  cases made
  exact ⟨⟨check_tile_count_ok checked, TileStream.make_suits _ _, TileStream.make_suits _ _,
    TileStream.make_suits _ _, TileStream.make_suits _ _, List.length_replicate, replicate_plain _⟩,
    rfl, rfl⟩

theorem make_info {id : SpaceId} {name : String} {start stop blockSize : UInt64} {space : LinearSpace}
    (made : make id name start stop blockSize = .ok space) : space.info = "" := by
  obtain ⟨tiling, _, made⟩ := Wire.except_bind_ok made
  obtain ⟨tileCount, _, made⟩ := Wire.except_bind_ok made
  cases made
  rfl

theorem resize_ok {space moved : LinearSpace} {start stop : UInt64}
    (done : space.resize start stop = .ok moved) (sound : space.Sound) :
    moved.Sound ∧ moved.id = space.id ∧ moved.namesPending = true := by
  obtain ⟨tiling, tiled, done⟩ := Wire.except_bind_ok done
  obtain ⟨tileCount, checked, done⟩ := Wire.except_bind_ok done
  cases done
  have sameSize : tiling.blockSize = space.tiling.blockSize := (tiling_make_ok tiled).2.2
  have counted := check_tile_count_ok checked
  refine ⟨⟨counted, ?_, ?_, ?_, ?_, List.length_replicate, replicate_plain _⟩, rfl, rfl⟩
  · exact ⟨sound.used.descriptor.trans (by rw [sameSize]), List.length_replicate⟩
  · exact ⟨sound.objects.descriptor, List.length_replicate⟩
  · exact ⟨sound.live.descriptor, List.length_replicate⟩
  · exact ⟨sound.dead.descriptor, List.length_replicate⟩

theorem count_keeps (space : LinearSpace) (sound : space.Sound) (tile : Nat) (live : Bool) :
    (space.count tile live).2.Sound ∧ space.SameRange (space.count tile live).2 := by
  unfold count
  split
  · exact ⟨sound, rfl, rfl, rfl⟩
  · rename_i objects counted
    have objectsSuit := TileStream.increment_suits sound.objects counted
    dsimp only
    cases live with
    | true =>
      rw [if_pos rfl]
      split
      · exact ⟨{ sound with objects := objectsSuit }, rfl, rfl, rfl⟩
      · rename_i live done
        have liveSuit := TileStream.increment_suits sound.live done
        exact ⟨{ sound with objects := objectsSuit, live := liveSuit }, rfl, rfl, rfl⟩
    | false =>
      rw [if_neg Bool.false_ne_true]
      split
      · exact ⟨{ sound with objects := objectsSuit }, rfl, rfl, rfl⟩
      · rename_i dead done
        have deadSuit := TileStream.increment_suits sound.dead done
        exact ⟨{ sound with objects := objectsSuit, dead := deadSuit }, rfl, rfl, rfl⟩

theorem scan_keeps {space : LinearSpace} (sound : space.Sound) (address size : UInt64) (live : Bool) :
    (space.scan address size live).2.Sound ∧ space.SameRange (space.scan address size live).2 := by
  unfold scan
  split
  · exact ⟨sound, rfl, rfl, rfl⟩
  · rename_i tile _
    have usedSuits := TileStream.distribute_suits sound.used space.tiling address size
    generalize space.used.distribute space.tiling address size = spread at usedSuits
    obtain ⟨outcome, used⟩ := spread
    cases outcome with
    | error error => exact ⟨{ sound with used := usedSuits }, rfl, rfl, rfl⟩
    | ok done =>
      obtain ⟨countSound, range⟩ :=
        count_keeps { space with used } { sound with used := usedSuits } tile live
      exact ⟨countSound, range.descriptor, range.tiling, range.namesPending⟩

theorem set_cursor_keeps {space changed : LinearSpace} (sound : space.Sound) {address : UInt64}
    (done : space.setCursor address = .ok changed) : changed.Sound ∧ space.SameRange changed := by
  unfold setCursor at done
  split at done
  · cases done
  · cases done
    refine ⟨{ sound with control := ?_, plain := ?_ }, rfl, rfl, rfl⟩
    · exact List.length_mapIdx.trans sound.control
    · intro flags member
      obtain ⟨index, inside, rfl⟩ := List.mem_mapIdx.mp member
      have plain := sound.plain _ (List.getElem_mem inside)
      unfold flagsBelow
      split
      · exact TileFlags.insert_plain (TileFlags.remove_plain plain _) (by decide : 4 < 32)
      · exact TileFlags.insert_plain (TileFlags.remove_plain plain _) (by decide : 1 < 32)

theorem set_separator_keeps {space changed : LinearSpace} (sound : space.Sound) {tile : Nat}
    (done : space.setSeparator tile = .ok changed) : changed.Sound ∧ space.SameRange changed := by
  obtain ⟨_, _, done⟩ := Wire.except_bind_ok done
  cases done
  refine ⟨{ sound with control := ?_, plain := ?_ }, rfl, rfl, rfl⟩
  · exact (List.length_modify _ _ _).trans sound.control
  · intro flags member
    obtain ⟨index, inside, rfl⟩ := List.getElem_of_mem member
    have plain := sound.plain _ (List.getElem_mem (List.length_modify _ _ _ ▸ inside))
    rw [List.getElem_modify]
    split
    · exact TileFlags.insert_plain plain (by decide : 8 < 32)
    · exact plain

theorem reset_keeps {space : LinearSpace} (sound : space.Sound) :
    space.reset.Sound ∧ space.SameRange space.reset := by
  refine ⟨⟨sound.counted, TileStream.reset_suits sound.used, TileStream.reset_suits sound.objects,
    TileStream.reset_suits sound.live, TileStream.reset_suits sound.dead, ?_, replicate_plain _⟩,
    rfl, rfl, rfl⟩
  exact List.length_replicate.trans sound.control

theorem perform_range {space : LinearSpace} (sound : space.Sound) (call : Call) :
    (space.perform call).2.Sound ∧ (space.perform call).2.id = space.id ∧
      (space.SameRange (space.perform call).2 ∨ (space.perform call).2.namesPending = true) := by
  have same {next : LinearSpace} (kept : next.Sound ∧ space.SameRange next) :
      next.Sound ∧ next.id = space.id ∧ (space.SameRange next ∨ next.namesPending = true) :=
    ⟨kept.1, congrArg SpaceDescriptor.id kept.2.descriptor, .inl kept.2⟩
  have unchanged := same ⟨sound, rfl, rfl, rfl⟩
  cases call with
  | scan address size live => exact same (scan_keeps sound address size live)
  | resize start stop =>
    rw [perform]
    cases done : space.resize start stop with
    | error error => exact unchanged
    | ok moved =>
      obtain ⟨movedSound, named, pending⟩ := resize_ok done sound
      exact ⟨movedSound, named, .inr pending⟩
  | setCursor address =>
    rw [perform]
    cases done : space.setCursor address with
    | error error => exact unchanged
    | ok changed => exact same (set_cursor_keeps sound done)
  | setSeparator tile =>
    rw [perform]
    cases done : space.setSeparator tile with
    | error error => exact unchanged
    | ok changed => exact same (set_separator_keeps sound done)
  | setInfo info => exact same ⟨{ sound with }, rfl, rfl, rfl⟩
  | reset => exact same (reset_keeps sound)

def Call.told? : Call → Option String
  | .setInfo text => some text
  | _ => none

theorem count_info (space : LinearSpace) (tile : Nat) (live : Bool) :
    (space.count tile live).2.info = space.info := by
  unfold count
  split
  · rfl
  · dsimp only
    split
    · split <;> rfl
    · split <;> rfl

theorem scan_info (space : LinearSpace) (address size : UInt64) (live : Bool) :
    (space.scan address size live).2.info = space.info := by
  unfold scan
  split
  · rfl
  · rename_i tile _
    cases space.used.distribute space.tiling address size with
    | mk outcome used =>
      cases outcome with
      | error error => rfl
      | ok done => exact count_info { space with used } tile live

theorem perform_info (space : LinearSpace) (call : Call) :
    (space.perform call).2.info = call.told?.getD space.info := by
  cases call with
  | scan address size live => exact space.scan_info address size live
  | resize start stop =>
    rw [perform]
    cases done : space.resize start stop with
    | error error => rfl
    | ok moved =>
      obtain ⟨tiling, _, done⟩ := Wire.except_bind_ok done
      obtain ⟨tileCount, _, done⟩ := Wire.except_bind_ok done
      cases done
      rfl
  | setCursor address =>
    rw [perform, setCursor]
    split <;> rfl
  | setSeparator tile =>
    rw [perform]
    cases done : space.setSeparator tile with
    | error error => rfl
    | ok changed =>
      obtain ⟨_, _, done⟩ := Wire.except_bind_ok done
      cases done
      rfl
  | setInfo text => rfl
  | reset => rfl

theorem transmit_space {ρ : Type} [Reporter ρ] (space : LinearSpace) (reporter : ρ) (event : EventId)
    (started stopped : Duration) :
    let sent := space.transmit reporter event started stopped
    sent.space = space ∨ sent.outcome = .ok () ∧ sent.space = { space with namesPending := false } := by
  simp only [transmit]
  split
  · simp only [send]
    split
    · exact .inl rfl
    · split
      · exact .inl rfl
      · exact .inr ⟨rfl, rfl⟩
  · exact .inl rfl

end LinearSpace

end HeapScope
