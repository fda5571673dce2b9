import HeapScope.Wire.Descriptors

namespace HeapScope.Wire

def Restores (write : α → Except Error Bytes) (read : Reader β) (view : α → β) : Prop :=
  ∀ item bytes, write item = .ok bytes → ∀ rest, read (bytes ++ rest) = .ok (view item, rest)

theorem except_bind_ok {first : Except Error α} {next : α → Except Error β} {result : β}
    (done : (first >>= next) = .ok result) : ∃ item, first = .ok item ∧ next item = .ok result := by
  cases first with
  | error error => cases done
  | ok item => exact ⟨item, rfl, done⟩

theorem except_ok_of_option {result : Except Error α} {item : α}
    (found : result.toOption = some item) : result = .ok item := by
  cases result with
  | error error => cases found
  | ok other => exact congrArg Except.ok (Option.some.inj found)

theorem except_any_ok {result : Except Error α} {check : α → Bool}
    (passes : result.toOption.any check = true) : ∃ item, result = .ok item ∧ check item = true := by
  cases result with
  | error error => cases passes
  | ok item => exact ⟨item, rfl, passes⟩

theorem except_unit_ok {result : Except Error Unit} (done : result.isOk = true) : result = .ok () := by
  cases result with
  | error error => cases done
  | ok done => rfl

def failure? : Except Error α → Option Error
  | .error error => some error
  | .ok _ => none

theorem except_error_of_failure {result : Except Error α} {error : Error}
    (failed : failure? result = some error) : result = .error error := by
  cases result with
  | error other => exact congrArg Except.error (Option.some.inj failed)
  | ok item => cases failed

theorem write_count_accepts {width : Nat} (what : String) {count : Nat} (small : count < 256 ^ width) :
    writeCount width what count = .ok (Bytes.bigEndian width count) :=
  if_pos small

theorem write_count_ok {width : Nat} {what : String} {count : Nat} {bytes : Bytes}
    (written : writeCount width what count = .ok bytes) :
    count < 256 ^ width ∧ bytes = Bytes.bigEndian width count := by
  unfold writeCount at written
  split at written
  · rename_i small
    cases written
    exact ⟨small, rfl⟩
  · cases written

theorem write_text_ok {text : String} {bytes : Bytes} (written : writeText text = .ok bytes) :
    text.utf8ByteSize < 256 ^ 2 ∧
      bytes = Bytes.bigEndian 2 text.utf8ByteSize ++ Utf8.encode text := by
  unfold writeText at written
  split at written
  · rename_i small
    cases written
    exact ⟨small, rfl⟩
  · cases written

theorem write_value_ok {kind : ValueKind} {value : Int32} {bytes : Bytes}
    (written : writeValue kind value = .ok bytes) :
    kind.holds value = true ∧ bytes = kind.encode value := by
  unfold writeValue at written
  split at written
  · rename_i held
    cases written
    exact ⟨held, rfl⟩
  · cases written

theorem write_each_nil (write : α → Except Error Bytes) : writeEach write [] = .ok [] := rfl

theorem write_each_cons (write : α → Except Error Bytes) (item : α) (items : List α) :
    writeEach write (item :: items) = (do
      let front ← write item
      let back ← writeEach write items
      return front ++ back) := by
  simp [writeEach]

theorem write_each_cons_ok {write : α → Except Error Bytes} {item : α} {items : List α}
    {bytes : Bytes} (written : writeEach write (item :: items) = .ok bytes) :
    ∃ front back, write item = .ok front ∧ writeEach write items = .ok back ∧
      bytes = front ++ back := by
  rw [write_each_cons] at written
  obtain ⟨front, first, written⟩ := except_bind_ok written
  obtain ⟨back, others, written⟩ := except_bind_ok written
  cases written
  exact ⟨front, back, first, others, rfl⟩

theorem write_each_append {write : α → Except Error Bytes} {left right : List α}
    {front back : Bytes} (leftWritten : writeEach write left = .ok front)
    (rightWritten : writeEach write right = .ok back) :
    writeEach write (left ++ right) = .ok (front ++ back) := by
  induction left generalizing front with
  | nil =>
    cases leftWritten
    exact rightWritten
  | cons item left ih =>
    obtain ⟨first, others, itemWritten, othersWritten, rfl⟩ := write_each_cons_ok leftWritten
    rw [List.cons_append, write_each_cons, itemWritten, ih othersWritten, List.append_assoc]
    rfl

theorem write_each_singleton {write : α → Except Error Bytes} {item : α} {bytes : Bytes}
    (written : write item = .ok bytes) : writeEach write [item] = .ok bytes := by
  rw [write_each_cons, written, write_each_nil]
  exact congrArg Except.ok (List.append_nil bytes)

theorem write_each_length {write : α → Except Error Bytes} {least : Nat}
    (bounded : ∀ item bytes, write item = .ok bytes → least ≤ bytes.length)
    (items : List α) (bytes : Bytes) (written : writeEach write items = .ok bytes) :
    items.length * least ≤ bytes.length := by
  induction items generalizing bytes with
  | nil => simp
  | cons item items ih =>
    obtain ⟨front, back, first, others, rfl⟩ := write_each_cons_ok written
    have frontBound := bounded item front first
    have backBound := ih back others
    rw [List.length_cons, List.length_append, Nat.succ_mul]
    omega

namespace Reader

theorem bind_ok {first : Reader α} {next : α → Reader β} {bytes rest : Bytes} {item : α}
    (reached : first bytes = .ok (item, rest)) : (first >>= next) bytes = next item rest := by
  change Reader.bind first next bytes = next item rest
  simp only [Reader.bind, reached]

theorem take_append (front rest : Bytes) (what : String) :
    take front.length what (front ++ rest) = .ok (front, rest) := by
  simp [take]

theorem number_append (width : Nat) (front rest : Bytes) (what : String)
    (long : front.length = width) :
    number width what (front ++ rest) = .ok (Bytes.number front, rest) := by
  subst long
  exact bind_ok (take_append front rest what)

theorem number_written (width n : Nat) (rest : Bytes) (what : String) (small : n < 256 ^ width) :
    number width what (Bytes.bigEndian width n ++ rest) = .ok (n, rest) := by
  rw [number_append width _ rest what (Bytes.big_endian_length width n),
    Bytes.number_big_endian_of_lt width n small]

theorem byte_cons (byteRead : UInt8) (rest : Bytes) (what : String) :
    byte what (byteRead :: rest) = .ok (byteRead, rest) := by
  have read := number_append 1 [byteRead] rest what rfl
  have same : UInt8.ofNat (Bytes.number [byteRead]) = byteRead := by simp [Bytes.number]
  refine (bind_ok read).trans ?_
  rw [same]
  rfl

theorem bool_written (b : Bool) (rest : Bytes) (what : String) :
    bool what (writeBool b ++ rest) = .ok (b, rest) := by
  cases b <;> exact bind_ok (byte_cons _ rest what)

theorem text_restores (what : String) : Restores writeText (text what) id := by
  intro written bytes done rest
  obtain ⟨small, rfl⟩ := write_text_ok done
  rw [List.append_assoc]
  refine (bind_ok (number_written 2 _ _ what small)).trans ?_
  refine (bind_ok (take_append (Utf8.encode written) rest what)).trans ?_
  rw [Utf8.decode_encode]
  rfl

theorem entries_written (what : String) (least count : Nat) (body : Bytes)
    (small : count < 256 ^ 4) (fits : count * least ≤ body.length) :
    entries what least (Bytes.bigEndian 4 count ++ body) = .ok (count, body) := by
  refine (bind_ok (number_written 4 count body what small)).trans ?_
  exact if_neg (Nat.not_lt.mpr fits)

theorem many_after_restores {write : α → Except Error Bytes} {read : Reader β} {view : α → β}
    (restores : Restores write read view) (found : List β) (items : List α) (bytes rest : Bytes)
    (written : writeEach write items = .ok bytes) :
    manyAfter read found items.length (bytes ++ rest) =
      .ok (found.reverse ++ items.map view, rest) := by
  induction items generalizing found bytes with
  | nil =>
    cases written
    simp [manyAfter]
  | cons item items ih =>
    obtain ⟨front, back, first, others, rfl⟩ := write_each_cons_ok written
    rw [List.append_assoc, List.length_cons, manyAfter, restores item front first]
    simpa using ih (view item :: found) back others

theorem many_restores {write : α → Except Error Bytes} {read : Reader β} {view : α → β}
    (restores : Restores write read view) (items : List α) (bytes rest : Bytes)
    (written : writeEach write items = .ok bytes) :
    many read items.length (bytes ++ rest) = .ok (items.map view, rest) :=
  many_after_restores restores [] items bytes rest written

-- A counted run whose items have a least length, which is what lets the count pass the guard.
theorem counted_written {write : α → Except Error Bytes} {read : Reader β} {view : α → β}
    {least : Nat} (restores : Restores write read view)
    (bounded : ∀ item bytes, write item = .ok bytes → least ≤ bytes.length) (items : List α)
    (body rest : Bytes) (written : writeEach write items = .ok body) (what : String)
    (small : items.length < 256 ^ 4) (next : List β → Reader γ) :
    (entries what least >>= fun count => many read count >>= next)
        (Bytes.bigEndian 4 items.length ++ (body ++ rest)) = next (items.map view) rest := by
  have fits := write_each_length bounded items body written
  have fitsBefore : items.length * least ≤ (body ++ rest).length := by
    rw [List.length_append]
    omega
  refine (bind_ok (entries_written what least items.length _ small fitsBefore)).trans ?_
  exact bind_ok (many_restores restores items body rest written)

end Reader

end HeapScope.Wire
