import HeapScope.Proofs.Wire.Delimiting

namespace HeapScope.Wire.Reader

theorem bind_error {first : Reader α} {next : α → Reader β} {bytes : Bytes} {fault : Fault}
    (failed : first bytes = .error fault) : (first >>= next) bytes = .error fault := by
  change Reader.bind first next bytes = .error fault
  simp only [Reader.bind, failed]

inductive Collects (read : Reader α) : Bytes → List α → Bytes → Prop where
  | nothing (bytes : Bytes) : Collects read bytes [] bytes
  | next {bytes middle rest : Bytes} {item : α} {items : List α}
    (reached : read bytes = .ok (item, middle)) (others : Collects read middle items rest) :
    Collects read bytes (item :: items) rest

theorem collected_fit {read : Reader α} {least : Nat} (spends : Spends least read) {bytes rest : Bytes}
    {items : List α} (collects : Collects read bytes items rest) :
    items.length * least + rest.length ≤ bytes.length := by
  induction collects with
  | nothing bytes => simp
  | @next bytes middle rest item items reached _ ih =>
    have first := spends bytes item middle reached
    rw [List.length_cons, Nat.succ_mul]
    omega

theorem collected_few {read : Reader α} {least : Nat} (spends : Spends least read) (pos : 0 < least)
    {bytes rest : Bytes} {items : List α} (collects : Collects read bytes items rest) :
    items.length ≤ bytes.length := by
  have fit := collected_fit spends collects
  have each := Nat.le_mul_of_pos_right items.length pos
  omega

theorem spends_of_delimits {read : Reader α} {fault : Fault} (delimits : Delimits read)
    (needs : read [] = .error fault) : Spends 1 read := by
  intro bytes item rest done
  obtain ⟨front, rfl, again⟩ := delimits bytes item rest done
  cases front with
  | nil =>
    have early : read [] = .ok (item, []) := again []
    rw [needs] at early
    cases early
  | cons first front =>
    rw [List.length_append, List.length_cons]
    omega

theorem many_after_ok_iff {read : Reader α} {found items : List α} {n : Nat} {bytes rest : Bytes} :
    manyAfter read found n bytes = .ok (items, rest) ↔
      ∃ more, Collects read bytes more rest ∧ more.length = n ∧ items = found.reverse ++ more := by
  induction n generalizing found bytes with
  | zero =>
    constructor
    · intro done
      cases done
      exact ⟨[], .nothing _, rfl, (List.append_nil _).symm⟩
    · rintro ⟨more, collects, empty, whole⟩
      obtain rfl := List.length_eq_zero_iff.mp empty
      cases collects
      rw [whole, List.append_nil]
      rfl
  | succ n ih =>
    constructor
    · intro done
      cases reached : read bytes with
      | error fault =>
        simp only [manyAfter, reached] at done
        cases done
      | ok first =>
        obtain ⟨item, middle⟩ := first
        simp only [manyAfter, reached] at done
        obtain ⟨more, collects, rfl, rfl⟩ := ih.mp done
        exact ⟨item :: more, .next reached collects, rfl, by simp⟩
    · rintro ⟨more, collects, long, whole⟩
      cases collects with
      | nothing => cases long
      | next reached others =>
        simp only [manyAfter, reached]
        exact ih.mpr ⟨_, others, Nat.succ.inj long, by simp [whole]⟩

theorem many_ok_iff {read : Reader α} {items : List α} {n : Nat} {bytes rest : Bytes} :
    many read n bytes = .ok (items, rest) ↔ Collects read bytes items rest ∧ items.length = n := by
  rw [many, many_after_ok_iff]
  constructor
  · intro ⟨more, collects, long, whole⟩
    subst whole
    exact ⟨collects, long⟩
  · intro ⟨collects, long⟩
    exact ⟨items, collects, long, rfl⟩

theorem many_after_error {read : Reader α} {found : List α} {n : Nat} {bytes : Bytes} {fault : Fault}
    (failed : manyAfter read found n bytes = .error fault) :
    ∃ items rest, Collects read bytes items rest ∧ items.length < n ∧ read rest = .error fault := by
  induction n generalizing found bytes with
  | zero => cases failed
  | succ n ih =>
    cases reached : read bytes with
    | error other =>
      simp only [manyAfter, reached] at failed
      cases failed
      exact ⟨[], bytes, .nothing bytes, Nat.succ_pos n, reached⟩
    | ok first =>
      obtain ⟨item, middle⟩ := first
      simp only [manyAfter, reached] at failed
      obtain ⟨items, rest, collects, fewer, stopped⟩ := ih failed
      exact ⟨item :: items, rest, .next reached collects, Nat.succ_lt_succ fewer, stopped⟩

def HasWidth (width : Nat) (read : Reader α) : Prop :=
  ∀ bytes, width ≤ bytes.length → ∃ item, read bytes = .ok (item, bytes.drop width)

theorem number_has_width (width : Nat) (what : String) (next : Nat → α) :
    HasWidth width (do return next (← number width what)) := by
  intro bytes enough
  have whole : (bytes.take width).length = width := List.length_take_of_le enough
  have taken : take width what bytes = .ok (bytes.take width, bytes.drop width) := if_pos whole
  exact ⟨next (Bytes.number (bytes.take width)), bind_ok (bind_ok taken)⟩

theorem many_of_width {read : Reader α} {width : Nat} (hasWidth : HasWidth width read) {n : Nat}
    {bytes : Bytes} (enough : n * width ≤ bytes.length) :
    ∃ items, many read n bytes = .ok (items, bytes.drop (n * width)) ∧ items.length = n := by
  suffices collected : ∃ items, Collects read bytes items (bytes.drop (n * width)) ∧ items.length = n by
    obtain ⟨items, collects, long⟩ := collected
    exact ⟨items, many_ok_iff.mpr ⟨collects, long⟩, long⟩
  induction n generalizing bytes with
  | zero => exact ⟨[], by simpa using Collects.nothing bytes, rfl⟩
  | succ n ih =>
    rw [Nat.succ_mul] at enough
    obtain ⟨item, reached⟩ := hasWidth bytes (by omega)
    have behind : n * width ≤ (bytes.drop width).length := by
      rw [List.length_drop]
      omega
    obtain ⟨items, others, long⟩ := ih behind
    rw [List.drop_drop, Nat.add_comm, ← Nat.succ_mul] at others
    exact ⟨item :: items, .next reached others, congrArg Nat.succ long⟩

theorem entries_then {what : String} {count least : Nat} {bytes after : Bytes}
    (announced : number 4 what bytes = .ok (count, after)) (next : Nat → Reader α) :
    (entries what least >>= next) bytes =
      if after.length < count * least then .error (.entriesDoNotFit what count after.length)
      else next count after := by
  have checked : entries what least bytes =
      if after.length < count * least then .error (.entriesDoNotFit what count after.length)
      else .ok (count, after) := bind_ok announced
  by_cases long : after.length < count * least
  · rw [if_pos long] at checked ⊢
    exact bind_error checked
  · rw [if_neg long] at checked ⊢
    exact bind_ok checked

-- What a fault in a single element of a fixed width would name.
def elementNames : List String := ["byte value", "short value", "int value", "summary value"]

def cutsElement : Fault → Bool
  | .truncated what _ => elementNames.contains what
  | _ => false

def Spares (read : Reader α) : Prop :=
  ∀ bytes fault, read bytes = .error fault → cutsElement fault = false

theorem spares_pure (item : α) : Spares (pure item : Reader α) := by
  intro bytes fault failed
  cases failed

theorem spares_fail {fault : Fault} (other : cutsElement fault = false) :
    Spares (fail fault : Reader α) := by
  intro bytes found failed
  cases failed
  exact other

theorem spares_bind {first : Reader α} {next : α → Reader β} (firstSpares : Spares first)
    (nextSpares : ∀ item, Spares (next item)) : Spares (first >>= next) := by
  intro bytes fault failed
  cases reached : first bytes with
  | error other =>
    rw [bind_error reached] at failed
    cases failed
    exact firstSpares bytes fault reached
  | ok done =>
    obtain ⟨item, middle⟩ := done
    rw [bind_ok reached] at failed
    exact nextSpares item middle fault failed

theorem spares_take {what : String} (other : elementNames.contains what = false) (n : Nat) :
    Spares (take n what) := by
  intro bytes fault failed
  by_cases whole : (bytes.take n).length = n
  · rw [take, if_pos whole] at failed
    cases failed
  · rw [take, if_neg whole] at failed
    cases failed
    exact other

theorem spares_number {what : String} (other : elementNames.contains what = false) (width : Nat) :
    Spares (number width what) :=
  spares_bind (spares_take other width) fun _ => spares_pure _

theorem spares_byte {what : String} (other : elementNames.contains what = false) :
    Spares (byte what) :=
  spares_bind (spares_number other 1) fun _ => spares_pure _

theorem spares_text {what : String} (other : elementNames.contains what = false) :
    Spares (text what) := by
  refine spares_bind (spares_number other 2) fun length => ?_
  refine spares_bind (spares_take other length) fun bytes => ?_
  split
  · exact spares_pure _
  · exact spares_fail rfl

theorem spares_int {what : String} (other : elementNames.contains what = false) : Spares (int what) :=
  spares_bind (spares_number other 4) fun _ => spares_pure _

theorem spares_many {read : Reader α} (spares : Spares read) (n : Nat) : Spares (many read n) := by
  intro bytes fault failed
  obtain ⟨items, rest, _, _, stopped⟩ := many_after_error failed
  exact spares rest fault stopped

theorem spares_space_id : Spares spaceId :=
  spares_bind (spares_byte (by decide)) fun _ => spares_pure _

theorem spares_stream_id : Spares streamId :=
  spares_bind (spares_byte (by decide)) fun _ => spares_pure _

theorem spares_event_id : Spares eventId :=
  spares_bind (spares_number (by decide) 2) fun _ => spares_pure _

theorem spares_count32 {what : String} (other : elementNames.contains what = false) :
    Spares (count32 what) :=
  spares_bind (spares_number other 4) fun _ => spares_pure _

theorem spares_kind : Spares kind := by
  refine spares_bind (spares_byte (by decide)) fun code => ?_
  split
  · exact spares_pure _
  · exact spares_fail rfl

theorem spares_presentation : Spares presentation := by
  refine spares_bind (spares_byte (by decide)) fun code => ?_
  split
  · exact spares_pure _
  · exact spares_fail rfl

theorem spares_paint_style : Spares paintStyle := by
  refine spares_bind (spares_byte (by decide)) fun code => ?_
  split
  · exact spares_pure _
  · exact spares_fail rfl

theorem spares_bool {what : String} (other : elementNames.contains what = false) :
    Spares (bool what) := by
  refine spares_bind (spares_byte other) fun value => ?_
  split
  · exact spares_pure _
  · exact spares_pure _
  · exact spares_fail rfl

theorem spares_stream : Spares stream :=
  spares_bind spares_stream_id fun _ =>
  spares_bind (spares_text (by decide)) fun _ =>
  spares_bind spares_kind fun _ =>
  spares_bind (spares_int (by decide)) fun _ =>
  spares_bind (spares_int (by decide)) fun _ =>
  spares_bind (spares_int (by decide)) fun _ =>
  spares_bind (spares_int (by decide)) fun _ =>
  spares_bind (spares_text (by decide)) fun _ =>
  spares_bind (spares_text (by decide)) fun _ =>
  spares_bind spares_presentation fun _ =>
  spares_bind spares_paint_style fun _ =>
  spares_bind (spares_bind (spares_byte (by decide)) fun _ => spares_pure _) fun _ =>
  spares_bind (spares_bind (spares_number (by decide) 3) fun _ => spares_pure _) fun _ =>
  spares_bind (spares_bool (by decide)) fun _ => spares_pure _

theorem spares_space : Spares space :=
  spares_bind spares_space_id fun _ =>
  spares_bind (spares_text (by decide)) fun _ =>
  spares_bind (spares_text (by decide)) fun _ =>
  spares_bind (spares_text (by decide)) fun _ =>
  spares_bind (spares_text (by decide)) fun _ =>
  spares_bind (spares_count32 (by decide)) fun _ =>
  spares_bind (spares_text (by decide)) fun _ =>
  spares_bind (spares_byte (by decide)) fun _ =>
  spares_bind (spares_byte (by decide)) fun _ =>
  spares_bind (spares_many spares_stream _) fun _ => spares_pure _

theorem spares_server : Spares server := by
  refine spares_bind (spares_byte (by decide)) fun version => ?_
  split
  · exact spares_fail rfl
  · exact
      spares_bind (spares_text (by decide)) fun _ =>
      spares_bind (spares_text (by decide)) fun _ =>
      spares_bind (spares_text (by decide)) fun _ =>
      spares_bind (spares_number (by decide) 2) fun _ =>
      spares_bind (spares_many (spares_text (by decide)) _) fun _ =>
      spares_bind (spares_byte (by decide)) fun _ =>
      spares_bind (spares_many spares_space _) fun _ => spares_pure _

theorem spares_entries {what : String} (other : elementNames.contains what = false) (least : Nat) :
    Spares (entries what least) := by
  refine spares_bind (spares_number other 4) fun count => ?_
  intro bytes fault failed
  dsimp only at failed
  by_cases long : bytes.length < count * least
  · rw [if_pos long] at failed
    cases failed
    rfl
  · rw [if_neg long] at failed
    cases failed

-- The elements could not be read alone, but they are there behind the check.
theorem spares_counted {read : Reader α} {least : Nat} (hasWidth : HasWidth least read) {what : String}
    (other : elementNames.contains what = false) (make : List α → β) :
    Spares (entries what least >>= fun count => many read count >>= fun items => pure (make items)) := by
  intro bytes fault failed
  cases announced : number 4 what bytes with
  | error cut =>
    have unread : entries what least bytes = .error cut := bind_error announced
    rw [bind_error unread] at failed
    cases failed
    exact spares_entries other least bytes fault unread
  | ok done =>
    obtain ⟨count, after⟩ := done
    rw [entries_then announced] at failed
    by_cases long : after.length < count * least
    · rw [if_pos long] at failed
      cases failed
      rfl
    · obtain ⟨items, read, _⟩ := many_of_width hasWidth (Nat.not_lt.mp long)
      rw [if_neg long, bind_ok read] at failed
      cases failed

theorem spares_fields (opcode : UInt8) : Spares (fields opcode) := by
  unfold fields
  split
  case h_1 => exact spares_bind spares_server fun _ => spares_pure _
  case h_2 => exact spares_bind spares_space fun _ => spares_pure _
  case h_3 =>
    exact
      spares_bind spares_space_id fun _ =>
      spares_bind spares_event_id fun _ =>
      spares_bind (spares_count32 (by decide)) fun _ => spares_pure _
  case h_4 =>
    exact
      spares_bind spares_space_id fun _ =>
      spares_bind (spares_entries (by decide) 2) fun _ =>
      spares_bind (spares_many (spares_text (by decide)) _) fun _ => spares_pure _
  case h_5 =>
    exact
      spares_bind spares_space_id fun _ =>
      spares_bind spares_stream_id fun _ =>
      spares_bind spares_kind fun kind =>
      spares_counted (number_has_width kind.width _ kind.decode) (by decide) _
  case h_6 =>
    exact
      spares_bind spares_space_id fun _ =>
      spares_bind (spares_entries (by decide) 1) fun _ =>
      spares_bind (spares_take (by decide) _) fun _ => spares_pure _
  case h_7 =>
    exact
      spares_bind spares_space_id fun _ =>
      spares_bind spares_stream_id fun _ =>
      spares_counted (number_has_width 4 _ ValueKind.int.decode) (by decide) _
  case h_8 =>
    exact
      spares_bind spares_space_id fun _ =>
      spares_bind (spares_text (by decide)) fun _ => spares_pure _
  case h_9 => exact spares_bind spares_space_id fun _ => spares_pure _
  case h_10 =>
    exact
      spares_bind spares_event_id fun _ =>
      spares_bind (spares_count32 (by decide)) fun _ =>
      spares_bind (spares_number (by decide) 8) fun _ => spares_pure _
  case h_15 =>
    exact
      spares_bind spares_event_id fun _ =>
      spares_bind (spares_bool (by decide)) fun _ => spares_pure _
  case h_17 =>
    intro bytes fault failed
    cases failed
    rfl
  all_goals exact spares_pure _

theorem spares_commands (found : List Command) (bytes : Bytes) (fault : Fault)
    (failed : commandsAfter found bytes = .error fault) : cutsElement fault = false := by
  induction found, bytes using commandsAfter.induct with
  | case1 found =>
    rw [commandsAfter] at failed
    cases failed
  | case2 found opcode bytes other stopped =>
    rw [commands_after_fault stopped] at failed
    cases failed
    exact spares_fields opcode bytes fault stopped
  | case3 found opcode bytes command rest reached shorter ih =>
    rw [commands_after_command reached] at failed
    exact ih failed

end HeapScope.Wire.Reader
