import HeapScope.Proofs.LinearSpace.Shares
import HeapScope.TileStream.Words

namespace HeapScope

namespace Tiling

variable {tiling : Tiling}

-- The start of a tile is an address of the range, only its end may have to be capped.
theorem tile_start_word (word : tiling.blockSize < 2 ^ 64) {tile : UInt64}
    (counted : tile.toNat < tiling.tileCount) :
    ∃ first, tiling.tileStartWord? tile = some first ∧ first.toNat = tiling.tileStart tile.toNat := by
  have inside := tile_lt_iff.mp counted
  have bounded := tiling.bounded
  have block : (UInt64.ofNat tiling.blockSize).toNat = tiling.blockSize :=
    UInt64.toNat_ofNat_of_lt' word
  have start : (UInt64.ofNat tiling.start).toNat = tiling.start :=
    UInt64.toNat_ofNat_of_lt' (Nat.lt_of_le_of_lt tiling.ordered bounded)
  unfold tileStart at inside
  obtain ⟨offset, times⟩ := Word.product_fits tile (.ofNat tiling.blockSize)
    (by rw [block]; omega)
  rw [block] at times
  obtain ⟨sum, plus⟩ := Word.sum_fits (.ofNat tiling.start)
    (tile * .ofNat tiling.blockSize) (by rw [start, times]; omega)
  rw [start, times] at plus
  exact ⟨_, by simp only [tileStartWord?, offset, sum, bind, Option.bind], plus⟩

theorem tile_end_word (word : tiling.blockSize < 2 ^ 64) {tile : UInt64}
    (counted : tile.toNat < tiling.tileCount) :
    ∃ tileEnd, tiling.tileEndWord? tile = some tileEnd ∧
      tileEnd.toNat = tiling.tileEnd tile.toNat := by
  obtain ⟨first, reached, number⟩ := tile_start_word word counted
  have bounded := tiling.bounded
  have block : (UInt64.ofNat tiling.blockSize).toNat = tiling.blockSize :=
    UInt64.toNat_ofNat_of_lt' word
  have stop : (UInt64.ofNat tiling.stop).toNat = tiling.stop := UInt64.toNat_ofNat_of_lt' bounded
  obtain ⟨offset, times, plus⟩ := Option.bind_eq_some_iff.mp reached
  refine ⟨_, by simp only [tileEndWord?, times, plus, bind, Option.bind]; rfl, ?_⟩
  rw [Word.least_number, Word.capped_sum_number, number, block, stop]
  unfold tileEnd
  omega

-- The last index is one below the number of tiles, which is no more than the bytes of the range.
theorem tile_number_room {tile : Nat} (counted : tile < tiling.tileCount) : tile + 1 < 2 ^ 64 := by
  have first := tile_lt_iff.mp counted
  have bounded := tiling.bounded
  have spaced := Nat.le_mul_of_pos_right tile tiling.positive
  unfold tileStart at first
  omega

end Tiling

theorem map_idx_modified {values : List Int32} {index : Nat} {first : Int32 → Int32}
    {rest whole : Nat → Int32 → Int32} (own : ∀ value, rest index (first value) = whole index value)
    (others : ∀ other ≠ index, ∀ value, rest other value = whole other value) :
    (values.modify index first).mapIdx rest = values.mapIdx whole := by
  apply List.ext_getElem?
  intro other
  rw [List.getElem?_mapIdx, List.getElem?_modify, List.getElem?_mapIdx]
  by_cases same : index = other
  · subst same
    simp [Function.comp_def, own]
  · have alike : rest other = whole other := funext (others other (Ne.symm same))
    simp [same, alike]

namespace Spreading

variable {tiling : Tiling} {stop : UInt64} {spreading : Spreading}

structure Stands (tiling : Tiling) (stop : UInt64) (spreading : Spreading) : Prop where
  enough : tiling.tileCount ≤ spreading.stream.values.length
  covers : spreading.address < stop → tiling.Covers spreading.tile.toNat spreading.address.toNat

def given (tiling : Tiling) (stop : UInt64) (spreading : Spreading) : List Int32 :=
  spreading.stream.values.mapIdx fun tile =>
    TileStream.given spreading.stream.kind (tiling.overlap tile spreading.address.toNat stop.toNat)

theorem turn_ends (done : ¬spreading.address < stop) :
    spreading.turn tiling stop = .ends (.ok ()) ∧
      spreading.given tiling stop = spreading.stream.values := by
  refine ⟨if_neg done, TileStream.map_idx_same fun tile _ value => ?_⟩
  have nothing : tiling.overlap tile spreading.address.toNat stop.toNat = 0 := by
    rw [UInt64.lt_iff_toNat_lt] at done
    rw [Tiling.overlap_eq]
    omega
  rw [nothing, TileStream.given_nothing]

theorem turn_goes_on (small : tiling.blockSize < 2 ^ 63) (stands : Stands tiling stop spreading)
    (left : spreading.address < stop) :
    ∃ next, spreading.turn tiling stop = .goesOn next ∧
      next.stream = ⟨spreading.stream.descriptor,
        spreading.stream.values.modify spreading.tile.toNat (TileStream.given spreading.stream.kind
          (tiling.overlap spreading.tile.toNat spreading.address.toNat stop.toNat))⟩ ∧
      next.tile.toNat = spreading.tile.toNat + 1 ∧
      next.address.toNat = min (tiling.tileEnd spreading.tile.toNat) stop.toNat := by
  have covers := stands.covers left
  have counted := Tiling.covers_counted covers
  have inside := Nat.lt_of_lt_of_le counted stands.enough
  obtain ⟨tileEnd, ended, number⟩ := Tiling.tile_end_word (Nat.lt_trans small (by decide)) counted
  have upTo := Word.least_number tileEnd stop
  rw [number] at upTo
  have ahead : spreading.address.toNat < min (tiling.tileEnd spreading.tile.toNat) stop.toNat := by
    rw [UInt64.lt_iff_toNat_lt] at left
    unfold Tiling.Covers at covers
    omega
  have part : tiling.overlap spreading.tile.toNat spreading.address.toNat stop.toNat =
      min (tiling.tileEnd spreading.tile.toNat) stop.toNat - spreading.address.toNat :=
    Tiling.overlap_first covers
  obtain ⟨subtracted, bytes⟩ := Word.difference_fits (Word.least tileEnd stop)
    spreading.address (by omega)
  rw [upTo, ← part] at bytes
  have some : tiling.overlap spreading.tile.toNat spreading.address.toNat stop.toNat ≠ 0 := by omega
  have added : spreading.stream.increment spreading.tile.toNat (TileStream.signedBytes
      (tiling.overlap spreading.tile.toNat spreading.address.toNat stop.toNat)) =
      .ok ⟨spreading.stream.descriptor,
        spreading.stream.values.modify spreading.tile.toNat (TileStream.given spreading.stream.kind
          (tiling.overlap spreading.tile.toNat spreading.address.toNat stop.toNat))⟩ := by
    rw [spreading.stream.increment_gives inside]
    congr 3
    funext value
    exact (if_neg some).symm
  obtain ⟨following, onward⟩ := Word.sum_fits spreading.tile 1
    (Tiling.tile_number_room counted)
  refine ⟨⟨_, spreading.tile + 1, Word.least tileEnd stop⟩, ?_, rfl, onward, upTo⟩
  simp only [turn, if_pos left, ended, subtracted, bytes, added, following]

theorem stands_on (small : tiling.blockSize < 2 ^ 63) (within : stop.toNat ≤ tiling.stop)
    (stands : Stands tiling stop spreading) {next : Spreading}
    (turned : spreading.turn tiling stop = .goesOn next) :
    Stands tiling stop next ∧ next.tile.toNat = spreading.tile.toNat + 1 ∧
      next.stream.descriptor = spreading.stream.descriptor ∧
      next.given tiling stop = spreading.given tiling stop := by
  by_cases left : spreading.address < stop
  · have covers := stands.covers left
    obtain ⟨other, also, stream, onward, upTo⟩ := turn_goes_on small stands left
    cases turned.symm.trans also
    rw [UInt64.lt_iff_toNat_lt] at left
    refine ⟨⟨?_, ?_⟩, onward, by rw [stream], ?_⟩
    · simpa [stream] using stands.enough
    · intro more
      rw [UInt64.lt_iff_toNat_lt, upTo] at more
      rw [onward, upTo]
      exact Tiling.covers_next covers within more
    · rw [given, given, stream]
      refine map_idx_modified (fun value => ?_) fun tile other value => ?_
      · rw [upTo, Tiling.overlap_behind covers left, if_pos rfl, TileStream.given_nothing]
      · rw [upTo, Tiling.overlap_behind covers left, if_neg other]
        rfl
  · rw [(turn_ends left).1] at turned
    cases turned

-- The tiles before the end become fewer with each turn, so that the loop comes to its end.
theorem stands_leads (small : tiling.blockSize < 2 ^ 63) (within : stop.toNat ≤ tiling.stop)
    (stands : Stands tiling stop spreading) :
    ∃ last, Leads tiling stop spreading last ∧ last.turn tiling stop = .ends (.ok ()) ∧
      last.stream = ⟨spreading.stream.descriptor, spreading.given tiling stop⟩ := by
  induction ahead : tiling.tileCount - spreading.tile.toNat using Nat.strongRecOn
    generalizing spreading with
  | ind count ih =>
    by_cases left : spreading.address < stop
    · obtain ⟨next, turned, _⟩ := turn_goes_on small stands left
      obtain ⟨standsNext, onward, descriptor, same⟩ := stands_on small within stands turned
      have counted := Tiling.covers_counted (stands.covers left)
      obtain ⟨last, leads, ended, stream⟩ :=
        ih (tiling.tileCount - next.tile.toNat) (by omega) standsNext rfl
      exact ⟨last, .turned turned leads, ended, by rw [stream, descriptor, same]⟩
    · obtain ⟨ended, same⟩ := turn_ends left
      exact ⟨spreading, .here spreading, ended, by rw [same]⟩

theorem leads_stands (small : tiling.blockSize < 2 ^ 63) (within : stop.toNat ≤ tiling.stop)
    {state : Spreading} (stands : Stands tiling stop spreading)
    (leads : Leads tiling stop spreading state) : Stands tiling stop state := by
  induction leads with
  | here => exact stands
  | turned goesOn _ ih => exact ih (stands_on small within stands goesOn).1

-- A turn has one outcome: what the loop passes on its way leads to where it ends.
theorem leads_meet {state last : Spreading} {outcome : Except Error Unit}
    (leads : Leads tiling stop spreading state) (ending : Leads tiling stop spreading last)
    (ended : last.turn tiling stop = .ends outcome) : Leads tiling stop state last := by
  induction leads with
  | here => exact ending
  | turned goesOn _ ih =>
    cases ending with
    | here => cases ended.symm.trans goesOn
    | turned also further =>
      cases also.symm.trans goesOn
      exact ih further

theorem stop_word_number (tiling : Tiling) (address size : UInt64) :
    (stopWord tiling address size).toNat = min (address.toNat + size.toNat) tiling.stop := by
  have bounded := tiling.bounded
  rw [stopWord, Word.least_number, Word.capped_sum_number, UInt64.toNat_ofNat_of_lt' bounded]
  omega

theorem of_object_stands (stream : TileStream) (enough : tiling.tileCount ≤ stream.values.length)
    (small : tiling.blockSize < 2 ^ 63) {address : UInt64}
    (inside : tiling.contains address.toNat = true) (stop : UInt64) :
    ∃ start, ofObject? stream tiling address = some start ∧ start.stream = stream ∧
      start.address = address ∧ Stands tiling stop start := by
  have range : tiling.start ≤ address.toNat ∧ address.toNat < tiling.stop := by
    simpa [Tiling.contains] using inside
  have block : (UInt64.ofNat tiling.blockSize).toNat = tiling.blockSize :=
    UInt64.toNat_ofNat_of_lt' (Nat.lt_trans small (by decide))
  have start : (UInt64.ofNat tiling.start).toNat = tiling.start :=
    UInt64.toNat_ofNat_of_lt' (Nat.lt_of_le_of_lt tiling.ordered tiling.bounded)
  obtain ⟨subtracted, offset⟩ := Word.difference_fits address
    (.ofNat tiling.start) (by rw [start]; exact range.1)
  refine ⟨⟨stream, (address - .ofNat tiling.start) / .ofNat tiling.blockSize, address⟩, ?_, rfl, rfl,
    enough, fun _ => ?_⟩
  · simp only [ofObject?, if_pos inside, subtracted, bind, Option.bind]
    rfl
  · rw [UInt64.toNat_div, offset, start, block]
    exact Tiling.index_covers range

structure Finishes (tiling : Tiling) (stop : UInt64) (start last : Spreading) : Prop where
  leads : Leads tiling stop start last
  ended : last.turn tiling stop = .ends (.ok ())
  onward : ∀ state, Leads tiling stop start state → Leads tiling stop state last
  inside : ∀ state, Leads tiling stop start state → state.turn tiling stop = .ends (.ok ()) ∨
    state.tile.toNat < tiling.tileCount ∧ ∃ next, state.turn tiling stop = .goesOn next

theorem stands_finishes (small : tiling.blockSize < 2 ^ 63) (within : stop.toNat ≤ tiling.stop)
    (stands : Stands tiling stop spreading) :
    ∃ last, Finishes tiling stop spreading last ∧
      last.stream = { spreading.stream with values := spreading.given tiling stop } := by
  obtain ⟨last, leads, ended, gave⟩ := stands_leads small within stands
  refine ⟨last, ⟨leads, ended, fun state passed => leads_meet passed leads ended, ?inside⟩, gave⟩
  case inside =>
    intro state passed
    have standsThere := leads_stands small within stands passed
    by_cases left : state.address < stop
    · obtain ⟨next, turned, _⟩ := turn_goes_on small standsThere left
      exact .inr ⟨Tiling.covers_counted (standsThere.covers left), next, turned⟩
    · exact .inl (turn_ends left).1

end Spreading

def Tiling.bytesIn (tiling : Tiling) (address size : UInt64) (tile : Nat) : Nat :=
  tiling.overlap tile address.toNat (min (address.toNat + size.toNat) tiling.stop)

structure TileStream.Spreads (stream : TileStream) (tiling : Tiling) (address size : UInt64)
    (next : TileStream) : Prop where
  answer : stream.distribute tiling address size = (.ok (), next)
  descriptor : next.descriptor = stream.descriptor
  length : next.values.length = stream.values.length
  given : ∀ tile value, stream.get tile = .ok value → next.get tile =
    .ok (if tiling.bytesIn address size tile = 0 then value
      else stream.kind.clamp (value.toInt + tiling.bytesIn address size tile))
  loop : ∃ start last, Spreading.ofObject? stream tiling address = some start ∧
    Spreading.Finishes tiling (Spreading.stopWord tiling address size) start last ∧ last.stream = next

structure Tiling.SharesOut (tiling : Tiling) (address size : UInt64) : Prop where
  sum : ((List.range tiling.tileCount).map (tiling.bytesIn address size)).sum =
    min (address.toNat + size.toNat) tiling.stop - address.toNat
  behind : ∀ tile, tiling.tileCount ≤ tile → tiling.bytesIn address size tile = 0
  stop : (Spreading.stopWord tiling address size).toNat = min (address.toNat + size.toNat) tiling.stop

theorem object_spread_exactly (stream : TileStream) (tiling : Tiling)
    (small : tiling.blockSize < 2 ^ 63) (enough : tiling.tileCount ≤ stream.values.length)
    (address size : UInt64) (inside : tiling.contains address.toNat = true) :
    (∃ next, stream.Spreads tiling address size next) ∧ tiling.SharesOut address size := by
  have range : tiling.start ≤ address.toNat ∧ address.toNat < tiling.stop := by
    simpa [Tiling.contains] using inside
  have number := Spreading.stop_word_number tiling address size
  have within : (Spreading.stopWord tiling address size).toNat ≤ tiling.stop :=
    number ▸ Nat.min_le_right _ _
  refine ⟨⟨_, TileStream.distribute_gives stream (Tiling.index_covers range) size enough, rfl,
    List.length_mapIdx, ?given, ?loop⟩, ?sum, fun tile => tiling.share_none address size, number⟩
  case given =>
    intro tile value got
    have part : tiling.bytesIn address size tile < 2 ^ 63 :=
      Nat.lt_of_le_of_lt (tiling.overlap_le tile _ _) small
    rw [TileStream.map_idx_get _ got]
    exact congrArg Except.ok (TileStream.given_small stream.kind part value)
  case loop =>
    obtain ⟨start, found, own, first, stands⟩ :=
      Spreading.of_object_stands stream enough small inside (Spreading.stopWord tiling address size)
    obtain ⟨last, finishes, gave⟩ := Spreading.stands_finishes small within stands
    refine ⟨start, last, found, finishes, ?_⟩
    rw [gave, Spreading.given, own, first, number]
    rfl
  case sum => exact Tiling.overlaps_sum range.1 (Nat.min_le_right _ _)

-- The last tile would end behind the largest address, and so would the object. One value is at the edge
-- of its kind, and one belongs to no tile.
theorem object_at_the_top_spread :
    let tiling : Tiling := ⟨2 ^ 64 - 96, 2 ^ 64 - 1, 64, by decide, by decide, by decide⟩
    let stream : TileStream := ⟨.ofKind ⟨1⟩ "Objects" .short, [32760, 5, 7]⟩
    let address : UInt64 := 18446744073709551566
    let size : UInt64 := 18446744073709551615
    let stopWord := Spreading.stopWord tiling address size
    tiling.blockSize < 2 ^ 63 ∧ tiling.tileCount ≤ stream.values.length ∧
    tiling.contains address.toNat = true ∧ stopWord.toNat = 2 ^ 64 - 1 ∧
    ∃ start last, Spreading.ofObject? stream tiling address = some start ∧
      Spreading.Finishes tiling stopWord start last ∧ last.stream.values = [32767, 36, 7] := by
  intro tiling stream address size stopWord
  have small : tiling.blockSize < 2 ^ 63 := by decide
  have enough : tiling.tileCount ≤ stream.values.length := by decide
  have inside : tiling.contains address.toNat = true := by decide
  obtain ⟨⟨next, spreads⟩, shares⟩ := object_spread_exactly stream tiling small enough address size inside
  obtain ⟨start, last, found, finishes, same⟩ := spreads.loop
  have values : (stream.distribute tiling address size).2.values = [32767, 36, 7] := by decide +kernel
  rw [spreads.answer] at values
  have stop : stopWord.toNat = 2 ^ 64 - 1 := shares.stop.trans (by decide +kernel)
  exact ⟨small, enough, inside, stop, start, last, found, finishes, by rw [same, values]⟩

end HeapScope
