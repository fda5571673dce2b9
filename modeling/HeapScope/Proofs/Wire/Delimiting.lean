import HeapScope.Proofs.Wire.Commands

/- Where a command ends is told by its own bytes. A reader takes a front of the bytes, and with any other
   bytes behind that front it reads the same and leaves those (`Delimits`). The guard on a count looks at
   all that is left, but what is counted takes at least as much as the guard asks for (`Spends`), so it
   stands with the front alone too. A payload thus falls into the pieces of its commands, and a piece that
   is cut short is not accepted. -/
namespace HeapScope.Wire

namespace Reader

def Delimits (read : Reader α) : Prop :=
  ∀ bytes item rest, read bytes = .ok (item, rest) →
    ∃ front, bytes = front ++ rest ∧ ∀ more, read (front ++ more) = .ok (item, more)

def Spends (n : Nat) (read : Reader α) : Prop :=
  ∀ bytes item rest, read bytes = .ok (item, rest) → n + rest.length ≤ bytes.length

theorem bind_taken {first : Reader α} {next : α → Reader β} {bytes rest : Bytes} {result : β}
    (done : (first >>= next) bytes = .ok (result, rest)) :
    ∃ item middle, first bytes = .ok (item, middle) ∧ next item middle = .ok (result, rest) := by
  change Reader.bind first next bytes = .ok (result, rest) at done
  unfold Reader.bind at done
  split at done
  · cases done
  · rename_i item middle reached
    exact ⟨item, middle, reached, done⟩

theorem delimits_pure (item : α) : Delimits (pure item : Reader α) := by
  intro bytes found rest done
  cases done
  exact ⟨[], rfl, fun _ => rfl⟩

theorem delimits_fail (fault : Fault) : Delimits (fail fault : Reader α) := by
  intro bytes found rest done
  cases done

theorem delimits_bind {first : Reader α} {next : α → Reader β} (firstDelimits : Delimits first)
    (nextDelimits : ∀ item, Delimits (next item)) : Delimits (first >>= next) := by
  intro bytes result rest done
  obtain ⟨item, middle, reached, followed⟩ := bind_taken done
  obtain ⟨front, rfl, again⟩ := firstDelimits bytes item middle reached
  obtain ⟨back, rfl, after⟩ := nextDelimits item middle result rest followed
  refine ⟨front ++ back, (List.append_assoc front back rest).symm, fun more => ?_⟩
  rw [List.append_assoc]
  exact (bind_ok (again (back ++ more))).trans (after more)

theorem delimits_take (n : Nat) (what : String) : Delimits (take n what) := by
  intro bytes taken rest done
  simp only [take] at done
  split at done
  · rename_i whole
    cases done
    refine ⟨bytes.take n, (List.take_append_drop n bytes).symm, fun more => ?_⟩
    have again := take_append (bytes.take n) more what
    rwa [whole] at again
  · cases done

theorem delimits_number (width : Nat) (what : String) : Delimits (number width what) :=
  delimits_bind (delimits_take width what) fun _ => delimits_pure _

theorem delimits_byte (what : String) : Delimits (byte what) :=
  delimits_bind (delimits_number 1 what) fun _ => delimits_pure _

theorem delimits_bool (what : String) : Delimits (bool what) := by
  refine delimits_bind (delimits_byte what) fun value => ?_
  split
  · exact delimits_pure _
  · exact delimits_pure _
  · exact delimits_fail _

theorem delimits_text (what : String) : Delimits (text what) := by
  refine delimits_bind (delimits_number 2 what) fun length => ?_
  refine delimits_bind (delimits_take length what) fun bytes => ?_
  split
  · exact delimits_pure _
  · exact delimits_fail _

theorem delimits_many_after {read : Reader α} (delimits : Delimits read) (found : List α) (n : Nat) :
    Delimits (manyAfter read found n) := by
  induction n generalizing found with
  | zero =>
    intro bytes items rest done
    cases done
    exact ⟨[], rfl, fun _ => rfl⟩
  | succ n ih =>
    intro bytes items rest done
    simp only [manyAfter] at done
    split at done
    · cases done
    · rename_i item middle reached
      obtain ⟨front, rfl, again⟩ := delimits bytes item middle reached
      obtain ⟨back, rfl, after⟩ := ih (item :: found) middle items rest done
      refine ⟨front ++ back, (List.append_assoc front back rest).symm, fun more => ?_⟩
      rw [List.append_assoc, manyAfter, again (back ++ more)]
      exact after more

theorem delimits_many {read : Reader α} (delimits : Delimits read) (n : Nat) :
    Delimits (many read n) :=
  delimits_many_after delimits [] n

theorem spends_bind {n : Nat} {first : Reader α} {next : α → Reader β} (spends : Spends n first)
    (forward : ∀ item, Forward (next item)) : Spends n (first >>= next) := by
  intro bytes result rest done
  obtain ⟨item, middle, reached, followed⟩ := bind_taken done
  have front := spends bytes item middle reached
  have back := (forward item middle result rest followed).length_le
  omega

theorem spends_take (n : Nat) (what : String) : Spends n (take n what) := by
  intro bytes taken rest done
  simp only [take] at done
  split at done
  · rename_i whole
    cases done
    rw [List.length_take] at whole
    rw [List.length_drop]
    omega
  · cases done

theorem spends_number (width : Nat) (what : String) : Spends width (number width what) :=
  spends_bind (spends_take width what) fun _ => forward_pure _

theorem spends_many_after {read : Reader α} {least : Nat} (spends : Spends least read)
    (found : List α) (n : Nat) : Spends (n * least) (manyAfter read found n) := by
  induction n generalizing found with
  | zero =>
    intro bytes items rest done
    cases done
    omega
  | succ n ih =>
    intro bytes items rest done
    simp only [manyAfter] at done
    split at done
    · cases done
    · rename_i item middle reached
      have front := spends bytes item middle reached
      have back := ih (item :: found) middle items rest done
      rw [Nat.succ_mul]
      omega

theorem spends_many {read : Reader α} {least : Nat} (spends : Spends least read) (n : Nat) :
    Spends (n * least) (many read n) :=
  spends_many_after spends [] n

theorem delimits_counted {what : String} {least : Nat} {body : Nat → Reader α}
    (delimits : ∀ count, Delimits (body count)) (spends : ∀ count, Spends (count * least) (body count)) :
    Delimits (entries what least >>= body) := by
  intro bytes result rest done
  obtain ⟨count, middle, guarded, followed⟩ := bind_taken done
  obtain ⟨counted, left, announced, passed⟩ := bind_taken guarded
  split at passed
  · cases passed
  cases passed
  obtain ⟨front, rfl, again⟩ := delimits_number 4 what bytes count middle announced
  obtain ⟨back, rfl, after⟩ := delimits count middle result rest followed
  refine ⟨front ++ back, (List.append_assoc front back rest).symm, fun more => ?_⟩
  have enough : ¬(back ++ more).length < count * least :=
    Nat.not_lt.mpr (Nat.le_of_add_right_le (spends count (back ++ more) result more (after more)))
  have passes : entries what least (front ++ (back ++ more)) = .ok (count, back ++ more) :=
    (bind_ok (again (back ++ more))).trans (if_neg enough)
  rw [List.append_assoc]
  exact (bind_ok passes).trans (after more)

theorem spends_block (count : Nat) : Spends (count * 1) (take count "control block") := by
  rw [Nat.mul_one]
  exact spends_take count _

theorem spends_text (what : String) : Spends 2 (text what) := by
  refine spends_bind (spends_number 2 what) fun length => ?_
  refine forward_bind (forward_take length what) fun bytes => ?_
  split
  · exact forward_pure _
  · exact forward_fail _

theorem spends_int (what : String) : Spends 4 (int what) :=
  spends_bind (spends_number 4 what) fun _ => forward_pure _

theorem spends_value (kind : ValueKind) : Spends kind.width (value kind) :=
  spends_bind (spends_number kind.width _) fun _ => forward_pure _

theorem delimits_space_id : Delimits spaceId :=
  delimits_bind (delimits_byte _) fun _ => delimits_pure _

theorem delimits_stream_id : Delimits streamId :=
  delimits_bind (delimits_byte _) fun _ => delimits_pure _

theorem delimits_event_id : Delimits eventId :=
  delimits_bind (delimits_number _ _) fun _ => delimits_pure _

theorem delimits_count32 (what : String) : Delimits (count32 what) :=
  delimits_bind (delimits_number _ _) fun _ => delimits_pure _

theorem delimits_int (what : String) : Delimits (int what) :=
  delimits_bind (delimits_number _ _) fun _ => delimits_pure _

theorem delimits_value (kind : ValueKind) : Delimits (value kind) :=
  delimits_bind (delimits_number _ _) fun _ => delimits_pure _

theorem delimits_kind : Delimits kind := by
  refine delimits_bind (delimits_byte _) fun code => ?_
  split
  · exact delimits_pure _
  · exact delimits_fail _

theorem delimits_presentation : Delimits presentation := by
  refine delimits_bind (delimits_byte _) fun code => ?_
  split
  · exact delimits_pure _
  · exact delimits_fail _

theorem delimits_paint_style : Delimits paintStyle := by
  refine delimits_bind (delimits_byte _) fun code => ?_
  split
  · exact delimits_pure _
  · exact delimits_fail _

theorem delimits_max_stream : Delimits maxStream :=
  delimits_bind (delimits_byte _) fun _ => delimits_pure _

theorem delimits_color : Delimits color :=
  delimits_bind (delimits_number _ _) fun _ => delimits_pure _

theorem delimits_stream : Delimits stream :=
  delimits_bind delimits_stream_id fun _ =>
  delimits_bind (delimits_text _) fun _ =>
  delimits_bind delimits_kind fun _ =>
  delimits_bind (delimits_int _) fun _ =>
  delimits_bind (delimits_int _) fun _ =>
  delimits_bind (delimits_int _) fun _ =>
  delimits_bind (delimits_int _) fun _ =>
  delimits_bind (delimits_text _) fun _ =>
  delimits_bind (delimits_text _) fun _ =>
  delimits_bind delimits_presentation fun _ =>
  delimits_bind delimits_paint_style fun _ =>
  delimits_bind delimits_max_stream fun _ =>
  delimits_bind delimits_color fun _ =>
  delimits_bind (delimits_bool _) fun _ => delimits_pure _

theorem delimits_space : Delimits space :=
  delimits_bind delimits_space_id fun _ =>
  delimits_bind (delimits_text _) fun _ =>
  delimits_bind (delimits_text _) fun _ =>
  delimits_bind (delimits_text _) fun _ =>
  delimits_bind (delimits_text _) fun _ =>
  delimits_bind (delimits_count32 _) fun _ =>
  delimits_bind (delimits_text _) fun _ =>
  delimits_bind (delimits_byte _) fun _ =>
  delimits_bind (delimits_byte _) fun _ =>
  delimits_bind (delimits_many delimits_stream _) fun _ => delimits_pure _

theorem delimits_server : Delimits server := by
  refine delimits_bind (delimits_byte _) fun version => ?_
  split
  · exact delimits_fail _
  · exact
      delimits_bind (delimits_text _) fun _ =>
      delimits_bind (delimits_text _) fun _ =>
      delimits_bind (delimits_text _) fun _ =>
      delimits_bind (delimits_number _ _) fun _ =>
      delimits_bind (delimits_many (delimits_text _) _) fun _ =>
      delimits_bind (delimits_byte _) fun _ =>
      delimits_bind (delimits_many delimits_space _) fun _ => delimits_pure _

theorem delimits_fields (opcode : UInt8) : Delimits (fields opcode) := by
  unfold fields
  split
  case h_1 => exact delimits_bind delimits_server fun _ => delimits_pure _
  case h_2 => exact delimits_bind delimits_space fun _ => delimits_pure _
  case h_3 =>
    exact
      delimits_bind delimits_space_id fun _ =>
      delimits_bind delimits_event_id fun _ =>
      delimits_bind (delimits_count32 _) fun _ => delimits_pure _
  case h_4 =>
    exact
      delimits_bind delimits_space_id fun _ =>
      delimits_counted (fun _ => delimits_bind (delimits_many (delimits_text _) _) fun _ => delimits_pure _)
        fun _ => spends_bind (spends_many (spends_text _) _) fun _ => forward_pure _
  case h_5 =>
    exact
      delimits_bind delimits_space_id fun _ =>
      delimits_bind delimits_stream_id fun _ =>
      delimits_bind delimits_kind fun kind =>
      delimits_counted
        (fun _ => delimits_bind (delimits_many (delimits_value kind) _) fun _ => delimits_pure _)
        fun _ => spends_bind (spends_many (spends_value kind) _) fun _ => forward_pure _
  case h_6 =>
    exact
      delimits_bind delimits_space_id fun _ =>
      delimits_counted (fun _ => delimits_bind (delimits_take _ _) fun _ => delimits_pure _)
        fun count => spends_bind (spends_block count) fun _ => forward_pure _
  case h_7 =>
    exact
      delimits_bind delimits_space_id fun _ =>
      delimits_bind delimits_stream_id fun _ =>
      delimits_counted (fun _ => delimits_bind (delimits_many (delimits_int _) _) fun _ => delimits_pure _)
        fun _ => spends_bind (spends_many (spends_int _) _) fun _ => forward_pure _
  case h_8 =>
    exact
      delimits_bind delimits_space_id fun _ =>
      delimits_bind (delimits_text _) fun _ => delimits_pure _
  case h_9 => exact delimits_bind delimits_space_id fun _ => delimits_pure _
  case h_10 =>
    exact
      delimits_bind delimits_event_id fun _ =>
      delimits_bind (delimits_count32 _) fun _ =>
      delimits_bind (delimits_number _ _) fun _ => delimits_pure _
  case h_15 =>
    exact
      delimits_bind delimits_event_id fun _ =>
      delimits_bind (delimits_bool _) fun _ => delimits_pure _
  case h_17 =>
    intro bytes command rest done
    cases done
  all_goals exact delimits_pure _

theorem fields_cut_short {opcode : UInt8} {front back : Bytes} {command : Command}
    (read : fields opcode (front ++ back) = .ok (command, [])) (cut : back ≠ []) :
    ∃ fault, fields opcode front = .error fault := by
  cases early : fields opcode front with
  | error fault => exact ⟨fault, rfl⟩
  | ok done =>
    obtain ⟨other, rest⟩ := done
    obtain ⟨taken, rfl, again⟩ := delimits_fields opcode front other rest early
    have longer := again (rest ++ back)
    rw [← List.append_assoc, read] at longer
    have left : [] = rest ++ back := congrArg Prod.snd (Except.ok.inj longer)
    exact absurd (List.append_eq_nil_iff.mp left.symm).2 cut

theorem commands_ok {bytes : Bytes} {command : Command} {others : List Command}
    (read : commands bytes = .ok (command :: others)) :
    ∃ opcode front rest, bytes = opcode :: (front ++ rest) ∧ commands rest = .ok others ∧
      ∀ more, fields opcode (front ++ more) = .ok (command, more) := by
  obtain ⟨opcode, fieldBytes, rest, rfl, reached, behind⟩ := commands_cons_ok read
  obtain ⟨front, rfl, again⟩ := delimits_fields opcode fieldBytes command rest reached
  exact ⟨opcode, front, rest, rfl, behind, again⟩

theorem commands_append {front : Bytes} {found : List Command} (read : commands front = .ok found)
    (back : Bytes) : commands (front ++ back) = (commands back).map (found ++ ·) := by
  induction found generalizing front with
  | nil =>
    rw [commands_ok_nil read, List.nil_append]
    cases commands back <;> rfl
  | cons command found ih =>
    obtain ⟨opcode, taken, rest, rfl, behind, again⟩ := commands_ok read
    rw [List.cons_append, List.append_assoc, commands_cons (again (rest ++ back)), ih behind]
    cases commands back <;> rfl

end Reader

open Reader

theorem decode_ok_iff {payload : Bytes} {found : List Command} :
    decode payload = .ok found ↔ commands payload = .ok found := by
  unfold decode
  cases commands payload <;> simp

theorem decode_malformed_iff {payload : Bytes} :
    (∃ reason, decode payload = .error (.malformed reason)) ↔
      ∃ fault, commands payload = .error fault := by
  unfold decode
  cases commands payload <;> simp

theorem decode_append {front back : Bytes} {found more : List Command}
    (accepted : decode front = .ok found) (others : decode back = .ok more) :
    decode (front ++ back) = .ok (found ++ more) := by
  rw [decode_ok_iff, commands_append (decode_ok_iff.mp accepted), decode_ok_iff.mp others]
  rfl

theorem decode_append_malformed {front back : Bytes} {found : List Command}
    (accepted : decode front = .ok found) (bad : ∃ reason, decode back = .error (.malformed reason)) :
    ∃ reason, decode (front ++ back) = .error (.malformed reason) := by
  obtain ⟨fault, failed⟩ := decode_malformed_iff.mp bad
  rw [decode_malformed_iff, commands_append (decode_ok_iff.mp accepted), failed]
  exact ⟨fault, rfl⟩

theorem decode_one_iff {piece : Bytes} {command : Command} :
    decode piece = .ok [command] ↔
      ∃ opcode bytes, piece = opcode :: bytes ∧ fields opcode bytes = .ok (command, []) := by
  rw [decode_ok_iff]
  constructor
  · intro read
    obtain ⟨opcode, front, rest, rfl, behind, again⟩ := commands_ok read
    obtain rfl := commands_ok_nil behind
    exact ⟨opcode, front, by rw [List.append_nil], by simpa using again []⟩
  · rintro ⟨opcode, bytes, rfl, reached⟩
    rw [commands_cons reached, commands_nil]
    rfl

theorem decode_pieces {pieces : List Bytes} {found : List Command}
    (each : pieces.map decode = found.map fun command => .ok [command]) :
    decode pieces.flatten = .ok found := by
  induction pieces generalizing found with
  | nil =>
    obtain rfl := List.map_eq_nil_iff.mp each.symm
    rw [decode_ok_iff]
    exact commands_nil
  | cons piece pieces ih =>
    cases found with
    | nil => cases each
    | cons command found =>
      obtain ⟨one, others⟩ := List.cons.inj each
      exact decode_append one (ih others)

theorem decode_cut {payload : Bytes} {found : List Command} (accepted : decode payload = .ok found) :
    ∃ pieces : List Bytes, payload = pieces.flatten ∧
      pieces.map decode = found.map fun command => .ok [command] := by
  rw [decode_ok_iff] at accepted
  induction found generalizing payload with
  | nil => exact ⟨[], commands_ok_nil accepted, rfl⟩
  | cons command found ih =>
    obtain ⟨opcode, front, rest, rfl, behind, again⟩ := commands_ok accepted
    obtain ⟨pieces, rfl, each⟩ := ih behind
    have alone := again []
    rw [List.append_nil] at alone
    have first : decode (opcode :: front) = .ok [command] :=
      decode_one_iff.mpr ⟨opcode, front, rfl, alone⟩
    refine ⟨(opcode :: front) :: pieces, rfl, ?_⟩
    rw [List.map_cons, List.map_cons, first, each]

theorem piece_cut_short {front back : Bytes} {command : Command}
    (accepted : decode (front ++ back) = .ok [command]) (begun : front ≠ []) (cut : back ≠ []) :
    ∃ reason, decode front = .error (.malformed reason) := by
  obtain ⟨opcode, bytes, is, reached⟩ := decode_one_iff.mp accepted
  cases front with
  | nil => exact absurd rfl begun
  | cons first front =>
    cases is
    obtain ⟨fault, failed⟩ := fields_cut_short reached cut
    exact decode_malformed_iff.mpr ⟨fault, commands_fault failed⟩

theorem front_inside_piece {pieces : List Bytes} {found : List Command} {front : Bytes}
    (each : pieces.map decode = found.map fun command => .ok [command])
    (part : front <+: pieces.flatten) (inside : ∀ count, front ≠ (pieces.take count).flatten) :
    ∃ reason, decode front = .error (.malformed reason) := by
  induction pieces generalizing found front with
  | nil => exact absurd (List.prefix_nil.mp part) (inside 0)
  | cons piece pieces ih =>
    cases found with
    | nil => cases each
    | cons command found =>
      obtain ⟨first, others⟩ := List.cons.inj each
      rcases List.prefix_or_prefix_of_prefix part (List.prefix_append piece pieces.flatten) with
        ⟨back, rfl⟩ | ⟨left, rfl⟩
      · have cut : back ≠ [] := by
          rintro rfl
          exact inside 1 (by simp)
        exact piece_cut_short first (inside 0) cut
      · have rest : left <+: pieces.flatten := (List.prefix_append_right_inj piece).mp part
        have within : ∀ count, left ≠ (pieces.take count).flatten := by
          rintro count rfl
          exact inside (count + 1) (by simp)
        exact decode_append_malformed first (ih others rest within)

theorem commands_delimit_themselves (front : Bytes) (found : List Command)
    (accepted : decode front = .ok found) :
    (∀ back more, decode back = .ok more → decode (front ++ back) = .ok (found ++ more)) ∧
    (∀ back, (∃ reason, decode back = .error (.malformed reason)) →
      ∃ reason, decode (front ++ back) = .error (.malformed reason)) ∧
    (∃ pieces : List Bytes, front = pieces.flatten ∧
      (pieces.map decode = found.map fun command => .ok [command]) ∧
      (∀ count, decode (pieces.take count).flatten = .ok (found.take count)) ∧
      ∀ begun, begun <+: front → (∀ count, begun ≠ (pieces.take count).flatten) →
        ∃ reason, decode begun = .error (.malformed reason)) ∧
    ∀ command other piece, found = [command] → decode piece = .ok [other] → front <+: piece →
      front = piece := by
  refine ⟨fun back more => decode_append accepted, fun back => decode_append_malformed accepted, ?_, ?_⟩
  · obtain ⟨pieces, rfl, each⟩ := decode_cut accepted
    refine ⟨pieces, rfl, each, fun count => decode_pieces ?_, fun begun => front_inside_piece each⟩
    rw [List.map_take, List.map_take, each]
  · rintro command other piece rfl whole ⟨back, rfl⟩
    by_cases cut : back = []
    · rw [cut, List.append_nil]
    · have begun : front ≠ [] := by
        rintro rfl
        rw [decode_ok_iff, commands_nil] at accepted
        cases accepted
      obtain ⟨reason, failed⟩ := piece_cut_short whole begun cut
      rw [failed] at accepted
      cases accepted

theorem summary_delimits_itself :
    let front : Bytes := [7, 3, 0, 0, 0, 0, 2, 0, 0, 0, 5, 0xff, 0xff, 0xff, 0xff]
    let found : List Command := [.summary ⟨3⟩ ⟨0⟩ [5, -1]]
    decode front = .ok found ∧
      (∀ back more, decode back = .ok more → decode (front ++ back) = .ok (found ++ more)) ∧
      (∀ back, (∃ reason, decode back = .error (.malformed reason)) →
        ∃ reason, decode (front ++ back) = .error (.malformed reason)) ∧
      (∃ pieces : List Bytes, front = pieces.flatten ∧
        (pieces.map decode = found.map fun command => .ok [command]) ∧
        (∀ count, decode (pieces.take count).flatten = .ok (found.take count)) ∧
        ∀ begun, begun <+: front → (∀ count, begun ≠ (pieces.take count).flatten) →
          ∃ reason, decode begun = .error (.malformed reason)) ∧
      ∀ command other piece, found = [command] → decode piece = .ok [other] → front <+: piece →
        front = piece := by
  intro front found
  have accepted : decode front = .ok found := except_ok_of_option (by decide +kernel)
  exact ⟨accepted, commands_delimit_themselves front found accepted⟩

end HeapScope.Wire
