import HeapScope.Proofs.Wire.Collecting
import HeapScope.Proofs.Wire.Exactness
import HeapScope.Wire.Cursor

namespace HeapScope

def Command.elementCount : Command → Nat
  | .tileNames _ names => names.length
  | .streamData _ _ _ values => values.length
  | .control _ flags => flags.length
  | .summary _ _ values => values.length
  | _ => 0

namespace Wire

namespace Cursor

theorem left_length (cursor : Cursor) :
    cursor.left.length = cursor.payload.length - cursor.position.toNat := List.length_drop

theorem left_word_number (cursor : Cursor) : cursor.leftWord.toNat = cursor.left.length := by
  have number : (UInt64.ofNat cursor.payload.length).toNat = cursor.payload.length :=
    UInt64.toNat_ofNat_of_lt' cursor.bounded
  have behind : cursor.position ≤ UInt64.ofNat cursor.payload.length :=
    UInt64.le_iff_toNat_le.mpr (number.symm ▸ cursor.inside)
  rw [leftWord, UInt64.toNat_sub_of_le _ _ behind, number, left_length]

-- A place that is no word would be behind the payload as well.
theorem take_reads (cursor : Cursor) (n : UInt64) (what : String) :
    (cursor.take n what).map (fun taken => (taken.1, taken.2.left)) =
      Reader.take n.toNat what cursor.left := by
  have inside := cursor.inside
  have bounded := cursor.bounded
  have long := cursor.left_length
  by_cases enough : n.toNat ≤ cursor.left.length
  · obtain ⟨summed, number⟩ := Word.sum_fits cursor.position n (by omega)
    have reached : (cursor.position + n).toNat ≤ cursor.payload.length := by omega
    have whole : (cursor.left.take n.toNat).length = n.toNat := List.length_take_of_le enough
    have rest : cursor.payload.drop (cursor.position + n).toNat = cursor.left.drop n.toNat := by
      rw [number, left, List.drop_drop]
    simp only [take, summed, reached, dite_true, Except.map, Reader.take, whole, if_true]
    exact congrArg (fun behind => Except.ok (_, behind)) rest
  · have cut : (cursor.left.take n.toNat).length ≠ n.toNat := by
      rw [List.length_take]
      omega
    simp only [Reader.take, cut, if_false]
    by_cases fits : cursor.position.toNat + n.toNat < 2 ^ 64
    · obtain ⟨summed, number⟩ := Word.sum_fits cursor.position n fits
      have beyond : ¬(cursor.position + n).toNat ≤ cursor.payload.length := by omega
      simp only [take, summed, beyond, dite_false, Except.map]
    · simp only [take, Word.sum?, fits, if_false, Except.map]

variable {cursor behind : Cursor} {n : UInt64} {what : String} {taken : Bytes}

theorem take_ok (done : cursor.take n what = .ok (taken, behind)) :
    Reader.take n.toNat what cursor.left = .ok (taken, behind.left) := by
  rw [← take_reads, done]
  rfl

-- The four bytes of the count are not left any more, so that what is left is less than the largest word,
-- at which the product is capped.
theorem count_announced (announced : cursor.take 4 what = .ok (taken, behind)) (least : UInt64) :
    cursor.count what least =
      if behind.left.length < Bytes.number taken * least.toNat then
        .error (.entriesDoNotFit what (Bytes.number taken) behind.left.length)
      else .ok (.ofNat (Bytes.number taken), behind) := by
  have read := take_ok announced
  have room : behind.left.length < 2 ^ 64 - 1 := by
    have spent : 4 + behind.left.length ≤ cursor.left.length := Reader.spends_take _ _ _ _ _ read
    have long := cursor.left_length
    have bounded := cursor.bounded
    omega
  have small : Bytes.number taken < 2 ^ 64 := by
    obtain ⟨_, ⟨_, four⟩, _⟩ := Reader.take_takes _ _ _ _ _ read
    have word := Bytes.number_lt taken
    rw [four] at word
    exact Nat.lt_trans word (by decide)
  have number : (UInt64.ofNat (Bytes.number taken)).toNat = Bytes.number taken :=
    UInt64.toNat_ofNat_of_lt' small
  have capped : behind.leftWord < Word.cappedProduct (.ofNat (Bytes.number taken)) least ↔
      behind.left.length < Bytes.number taken * least.toNat := by
    rw [UInt64.lt_iff_toNat_lt, left_word_number, Word.capped_product_number, number]
    omega
  simp only [count, announced, bind, Except.bind, capped, number, left_word_number]

end Cursor

namespace Reader

inductive Element where
  | name
  | value (kind : ValueKind)
  | flags
  | sum

namespace Element

def Item : Element → Type
  | .name => String
  | .value _ => Int32
  | .flags => TileFlags
  | .sum => Int32

def what : Element → String
  | .name => "tile names"
  | .value _ => "stream values"
  | .flags => "control block"
  | .sum => "summary values"

def least : Element → Nat
  | .name => 2
  | .value kind => kind.width
  | .flags => 1
  | .sum => 4

def isFixed : Element → Bool
  | .name => false
  | _ => true

def read : (element : Element) → Reader element.Item
  | .name => text "tile name"
  | .value kind => Reader.value kind
  | .flags => do return TileFlags.ofByte (← byte "control block")
  | .sum => int "summary value"

theorem least_word (element : Element) : (UInt64.ofNat element.least).toNat = element.least := by
  cases element with
  | value kind => cases kind <;> rfl
  | _ => rfl

theorem least_pos (element : Element) : 0 < element.least := by
  cases element with
  | value kind => cases kind <;> decide
  | _ => decide

theorem read_spends (element : Element) : Spends element.least element.read := by
  cases element with
  | name => exact spends_text _
  | value kind => exact spends_value kind
  | flags => exact spends_bind (spends_bind (spends_number 1 _) fun _ => forward_pure _) fun _ => forward_pure _
  | sum => exact spends_int _

theorem read_has_width {element : Element} (fixed : element.isFixed = true) :
    HasWidth element.least element.read := by
  cases element with
  | name => cases fixed
  | value kind => exact number_has_width kind.width _ kind.decode
  | flags =>
    intro bytes enough
    obtain ⟨item, reached⟩ := number_has_width 1 "control block" UInt8.ofNat bytes enough
    exact ⟨TileFlags.ofByte item, bind_ok reached⟩
  | sum => exact number_has_width 4 _ ValueKind.int.decode

theorem name_of_unfixed {element : Element} (unfixed : element.isFixed = false) : element = .name := by
  cases element with
  | name => rfl
  | _ => cases unfixed

end Element

inductive Lists : UInt8 → Bytes → Element → Bytes → Prop where
  | names {bytes rest : Bytes} {space : SpaceId} (spaced : spaceId bytes = .ok (space, rest)) :
    Lists 0x04 bytes .name rest
  | values {bytes middle others rest : Bytes} {space : SpaceId} {stream : StreamId} {code : ValueKind}
    (spaced : spaceId bytes = .ok (space, middle)) (streamed : streamId middle = .ok (stream, others))
    (coded : kind others = .ok (code, rest)) : Lists 0x05 bytes (.value code) rest
  | flags {bytes rest : Bytes} {space : SpaceId} (spaced : spaceId bytes = .ok (space, rest)) :
    Lists 0x06 bytes .flags rest
  | sums {bytes middle rest : Bytes} {space : SpaceId} {stream : StreamId}
    (spaced : spaceId bytes = .ok (space, middle)) (streamed : streamId middle = .ok (stream, rest)) :
    Lists 0x07 bytes .sum rest

-- The flags of a block are taken at once, which is the same once they are known to be there.
theorem flags_collected (bits rest : Bytes) :
    Collects Element.flags.read (bits ++ rest) (bits.map TileFlags.ofByte) rest := by
  induction bits with
  | nil => exact .nothing rest
  | cons byte bits ih => exact .next (bind_ok (byte_cons byte (bits ++ rest) _)) ih

theorem list_read {opcode : UInt8} {bytes rest : Bytes} {element : Element}
    (lists : Lists opcode bytes element rest) :
    ∃ (make : List element.Item → Command) (next : Nat → Reader Command),
      (∀ items, (make items).elementCount = items.length) ∧
      fields opcode bytes = (entries element.what element.least >>= next) rest ∧
      ∀ count after, count * element.least ≤ after.length →
        next count after = (many element.read count >>= fun items => pure (make items)) after := by
  cases lists with
  | @names _ _ space spaced =>
    exact ⟨.tileNames space, _, fun _ => rfl, bind_ok spaced, fun _ _ _ => rfl⟩
  | @values _ _ _ _ space stream code spaced streamed coded =>
    refine ⟨.streamData space stream code, fun count => many (value code) count >>= fun values =>
      pure (.streamData space stream code values), fun _ => rfl, ?_, fun _ _ _ => rfl⟩
    refine (bind_ok spaced).trans ?_
    exact (bind_ok streamed).trans (bind_ok coded)
  | @sums _ _ _ space stream spaced streamed =>
    refine ⟨.summary space stream, fun count => many (int "summary value") count >>= fun values =>
      pure (.summary space stream values), fun _ => rfl, ?_, fun _ _ _ => rfl⟩
    exact (bind_ok spaced).trans (bind_ok streamed)
  | @flags _ _ space spaced =>
    refine ⟨.control space, _, fun _ => rfl, bind_ok spaced, fun count after enough => ?_⟩
    rw [show count * Element.flags.least = count from Nat.mul_one count] at enough
    have whole : (after.take count).length = count := List.length_take_of_le enough
    have taken : take count "control block" after = .ok (after.take count, after.drop count) :=
      if_pos whole
    have collected := flags_collected (after.take count) (after.drop count)
    rw [List.take_append_drop] at collected
    have read := many_ok_iff.mpr ⟨collected, (List.length_map _).trans whole⟩
    have made : (many Element.flags.read count >>= fun flags => pure (Command.control space flags)) after =
        .ok (Command.control space ((after.take count).map TileFlags.ofByte), after.drop count) :=
      bind_ok read
    exact (bind_ok taken).trans made.symm

section

variable {opcode : UInt8} {bytes rest after : Bytes} {element : Element} {count : Nat}

theorem list_answers (lists : Lists opcode bytes element rest)
    (announced : number 4 element.what rest = .ok (count, after)) :
    ∃ make : List element.Item → Command, (∀ items, (make items).elementCount = items.length) ∧
      (after.length < count * element.least →
        fields opcode bytes = .error (.entriesDoNotFit element.what count after.length)) ∧
      (count * element.least ≤ after.length →
        fields opcode bytes = (many element.read count >>= fun items => pure (make items)) after) := by
  obtain ⟨make, next, counted, answer, listed⟩ := list_read lists
  rw [entries_then announced] at answer
  refine ⟨make, counted, fun long => ?_, fun enough => ?_⟩
  · rw [answer, if_pos long]
  · rw [answer, if_neg (Nat.not_lt.mpr enough), listed count after enough]

theorem elements_fit {left : Bytes} {items : List element.Item}
    (collects : Collects element.read left items rest) : items.length * element.least ≤ left.length :=
  Nat.le_of_add_right_le (collected_fit element.read_spends collects)

theorem list_admits (lists : Lists opcode bytes element rest)
    (announced : number 4 element.what rest = .ok (count, after)) {items : List element.Item}
    {behind : Bytes} (collects : Collects element.read after items behind)
    (whole : items.length = count) :
    ∃ command, fields opcode bytes = .ok (command, behind) ∧ command.elementCount = count := by
  obtain ⟨make, counted, _, passed⟩ := list_answers lists announced
  have enough := elements_fit collects
  rw [whole] at enough
  have done := (passed enough).trans (bind_ok (many_ok_iff.mpr ⟨collects, whole⟩))
  exact ⟨make items, done, (counted items).trans whole⟩

theorem list_reads (lists : Lists opcode bytes element rest)
    (announced : number 4 element.what rest = .ok (count, after)) (fixed : element.isFixed = true)
    (enough : count * element.least ≤ after.length) :
    ∃ command, fields opcode bytes = .ok (command, after.drop (count * element.least)) ∧
      command.elementCount = count := by
  obtain ⟨items, done, whole⟩ := many_of_width (Element.read_has_width fixed) enough
  exact list_admits lists announced (many_ok_iff.mp done).1 whole

theorem list_accepts (lists : Lists opcode bytes element rest)
    (announced : number 4 element.what rest = .ok (count, after)) {command : Command} {behind : Bytes}
    (accepted : fields opcode bytes = .ok (command, behind)) :
    command.elementCount = count ∧
      ∃ items, Collects element.read after items behind ∧ items.length = count := by
  obtain ⟨make, counted, refused, passed⟩ := list_answers lists announced
  by_cases long : after.length < count * element.least
  · rw [refused long] at accepted
    cases accepted
  · rw [passed (Nat.not_lt.mp long)] at accepted
    obtain ⟨items, _, listing, made⟩ := bind_taken accepted
    cases made
    obtain ⟨collects, whole⟩ := many_ok_iff.mp listing
    exact ⟨(counted items).trans whole, items, collects, whole⟩

theorem list_stops (lists : Lists opcode bytes element rest)
    (announced : number 4 element.what rest = .ok (count, after))
    (enough : count * element.least ≤ after.length) {fault : Fault}
    (failed : fields opcode bytes = .error fault) :
    element = .name ∧ ∃ items behind, Collects element.read after items behind ∧
      items.length < count ∧ element.read behind = .error fault := by
  cases fixed : element.isFixed with
  | true =>
    obtain ⟨command, done, _⟩ := list_reads lists announced fixed enough
    rw [done] at failed
    cases failed
  | false =>
    obtain ⟨make, _, _, passed⟩ := list_answers lists announced
    rw [passed enough] at failed
    cases listing : many element.read count after with
    | ok done =>
      rw [bind_ok listing] at failed
      cases failed
    | error other =>
      rw [bind_error listing] at failed
      cases failed
      exact ⟨Element.name_of_unfixed fixed, many_after_error listing⟩

end

structure Guards (element : Element) (count : Nat) (left : Bytes)
    (checked : Except Fault (UInt64 × Cursor)) (answer : Except Fault (Command × Bytes)) : Prop where
  exactly : (∃ fault, checked = .error fault) ↔ left.length < count * element.least
  refuses : left.length < count * element.least →
    answer = .error (.entriesDoNotFit element.what count left.length)
  reads : element.isFixed = true → count * element.least ≤ left.length →
    ∃ command, answer = .ok (command, left.drop (count * element.least)) ∧ command.elementCount = count
  admits : ∀ items rest, Collects element.read left items rest → items.length = count →
    ∃ command, answer = .ok (command, rest) ∧ command.elementCount = count
  accepts : ∀ command rest, answer = .ok (command, rest) →
    command.elementCount = count ∧ ∃ items, Collects element.read left items rest ∧ items.length = count
  stops : ∀ fault, answer = .error fault → count * element.least ≤ left.length →
    element = .name ∧ ∃ items rest,
      Collects element.read left items rest ∧ items.length < count ∧ element.read rest = .error fault
  collects : ∀ items rest, Collects element.read left items rest → items.length ≤ left.length

theorem list_guarded {opcode : UInt8} {bytes digits : Bytes} {element : Element} {cursor behind : Cursor}
    (lists : Lists opcode bytes element cursor.left)
    (announced : cursor.take 4 element.what = .ok (digits, behind)) :
    Guards element (Bytes.number digits) behind.left
      (cursor.count element.what (.ofNat element.least)) (fields opcode bytes) := by
  have checked := Cursor.count_announced announced (.ofNat element.least)
  rw [element.least_word] at checked
  have read : number 4 element.what cursor.left = .ok (Bytes.number digits, behind.left) :=
    bind_ok (Cursor.take_ok announced)
  obtain ⟨_, _, refuses, _⟩ := list_answers lists read
  refine {
    refuses
    exactly := ?_
    reads := fun fixed enough => list_reads lists read fixed enough
    admits := fun items rest collects whole => list_admits lists read collects whole
    accepts := fun command rest accepted => list_accepts lists read accepted
    stops := fun fault failed enough => list_stops lists read enough failed
    collects := fun items rest => collected_few element.read_spends element.least_pos }
  by_cases long : behind.left.length < Bytes.number digits * element.least
  · rw [if_pos long] at checked
    exact ⟨fun _ => long, fun _ => ⟨_, checked⟩⟩
  · rw [if_neg long] at checked
    simp [checked, long]

theorem counts_guard_elements {opcode : UInt8} {bytes : Bytes} {element : Element} {cursor : Cursor}
    (lists : Lists opcode bytes element cursor.left) :
    (cursor.left.length < 4 →
      fields opcode bytes = .error (.truncated element.what cursor.left.length)) ∧
    (∀ digits behind, cursor.take 4 element.what = .ok (digits, behind) →
      Guards element (Bytes.number digits) behind.left
        (cursor.count element.what (.ofNat element.least)) (fields opcode bytes)) ∧
    (∀ payload fault, commands payload = .error fault → cutsElement fault = false) ∧
    (∀ left items rest, Collects (text "event name") left items rest → items.length ≤ left.length) ∧
    (∀ left items rest, Collects space left items rest → items.length ≤ left.length) ∧
    ∀ left items rest, Collects stream left items rest → items.length ≤ left.length := by
  refine ⟨fun short => ?_, fun digits behind => list_guarded lists,
    fun payload fault => spares_commands [] payload fault,
    fun left items rest => collected_few (spends_text "event name") (by decide),
    fun left items rest => collected_few (spends_of_delimits delimits_space rfl) (by decide),
    fun left items rest => collected_few (spends_of_delimits delimits_stream rfl) (by decide)⟩
  obtain ⟨_, next, _, answer, _⟩ := list_read lists
  have cut : (cursor.left.take 4).length ≠ 4 := by
    rw [List.length_take]
    omega
  have unread : take 4 element.what cursor.left =
      .error (.truncated element.what cursor.left.length) := if_neg cut
  have uncounted : number 4 element.what cursor.left = _ := bind_error unread
  have unchecked : entries element.what element.least cursor.left = _ := bind_error uncounted
  rw [answer, bind_error unchecked]

-- Three names are announced and six bytes left, as many as the check asks for; but the second name is longer
-- than what is left of them, and one name has been collected when the list is refused.
theorem cut_names_guarded :
    let payload : Bytes := [4, 7, 0, 0, 0, 3, 0, 1, 97, 0, 5, 98]
    let bytes := payload.drop 1
    let cursor : Cursor := ⟨payload, 2, by decide, by decide⟩
    let left : Bytes := [0, 1, 97, 0, 5, 98]
    Lists 4 bytes .name cursor.left ∧
    (∀ fault, cursor.count "tile names" 2 ≠ .error fault) ∧
    fields 4 bytes = .error (.truncated "tile name" 1) ∧
    Collects (text "tile name") left ["a"] [0, 5, 98] ∧
    (∃ items rest, Collects (text "tile name") left items rest ∧ items.length < 3 ∧
      text "tile name" rest = .error (.truncated "tile name" 1)) ∧
    ∀ items rest, Collects (text "tile name") left items rest → items.length ≤ 6 := by
  intro payload bytes cursor left
  have lists : Lists 4 bytes .name cursor.left := .names (space_id_cons ⟨7⟩ _)
  have announced : cursor.take 4 Element.name.what =
      .ok ([0, 0, 0, 3], ⟨payload, 6, by decide, by decide⟩) := rfl
  have written : writeText "a" = .ok [0, 1, 97] := if_pos (by decide)
  have first : text "tile name" left = .ok ("a", [0, 5, 98]) :=
    text_restores "tile name" "a" [0, 1, 97] written [0, 5, 98]
  have length : number 2 "tile name" [0, 5, 98] = .ok (5, [98]) := rfl
  have cut : take 5 "tile name" [98] = .error (.truncated "tile name" 1) := rfl
  have second : text "tile name" [0, 5, 98] = .error (.truncated "tile name" 1) :=
    (bind_ok length).trans (bind_error cut)
  have names : many (text "tile name") 3 left = .error (.truncated "tile name" 1) := by
    simp only [many, manyAfter, first, second]
  have enough : 3 * Element.name.least ≤ left.length := by decide
  have counted : number 4 Element.name.what cursor.left = .ok (3, left) := rfl
  obtain ⟨_, _, _, passed⟩ := list_answers lists counted
  have refused : fields 4 bytes = .error (.truncated "tile name" 1) :=
    (passed enough).trans (bind_error names)
  have guarded := (counts_guard_elements lists).2.1 _ _ announced
  obtain ⟨_, items, rest, collects, fewer, stopped⟩ := guarded.stops _ refused enough
  exact ⟨lists, fun fault failed => absurd enough (Nat.not_le.mpr (guarded.exactly.mp ⟨fault, failed⟩)),
    refused, .next first (.nothing _), ⟨items, rest, collects, fewer, stopped⟩, guarded.collects⟩

end Reader

end Wire

end HeapScope
