import HeapScope.Proofs.Wire.Fields
import HeapScope.Proofs.Wire.Numbers

namespace HeapScope.Wire

def Takes (read : Reader α) (shape : α → Bytes → Prop) : Prop :=
  ∀ bytes item rest, read bytes = .ok (item, rest) →
    ∃ front, shape item front ∧ bytes = front ++ rest

namespace Reader

theorem takes_pure {item : α} {shape : α → Bytes → Prop} (nothing : shape item []) :
    Takes (pure item : Reader α) shape := by
  intro bytes found rest done
  cases done
  exact ⟨[], nothing, rfl⟩

theorem takes_fail (fault : Fault) (shape : α → Bytes → Prop) :
    Takes (fail fault : Reader α) shape := by
  intro bytes found rest done
  cases done

theorem takes_bind {first : Reader α} {next : α → Reader β} {shape : α → Bytes → Prop}
    {whole : β → Bytes → Prop} (firstTakes : Takes first shape)
    (nextTakes : ∀ item front, shape item front →
      Takes (next item) fun result back => whole result (front ++ back)) :
    Takes (first >>= next) whole := by
  intro bytes result rest done
  change Reader.bind first next bytes = .ok (result, rest) at done
  unfold Reader.bind at done
  split at done
  · cases done
  · rename_i item middle reached
    obtain ⟨front, shaped, rfl⟩ := firstTakes bytes item middle reached
    obtain ⟨back, formed, rfl⟩ := nextTakes item front shaped middle result rest done
    exact ⟨front ++ back, formed, (List.append_assoc _ _ _).symm⟩

theorem take_takes (n : Nat) (what : String) :
    Takes (take n what) fun taken front => front = taken ∧ taken.length = n := by
  intro bytes taken rest done
  simp only [take] at done
  split at done
  · rename_i whole
    cases done
    exact ⟨_, ⟨rfl, whole⟩, (List.take_append_drop n bytes).symm⟩
  · cases done

theorem number_takes (width : Nat) (what : String) :
    Takes (number width what) fun n front => front = Bytes.bigEndian width n ∧ n < 256 ^ width := by
  refine takes_bind (take_takes width what) ?_
  rintro taken front ⟨rfl, rfl⟩
  refine takes_pure ⟨?_, Bytes.number_lt front⟩
  rw [List.append_nil, Bytes.big_endian_number]

theorem byte_takes (what : String) : Takes (byte what) fun value front => front = [value] := by
  refine takes_bind (number_takes 1 what) ?_
  rintro n front ⟨rfl, _⟩
  exact takes_pure rfl

theorem bool_takes (what : String) : Takes (bool what) fun b front => front = writeBool b := by
  refine takes_bind (byte_takes what) ?_
  rintro value front rfl
  split
  · exact takes_pure rfl
  · exact takes_pure rfl
  · exact takes_fail _ _

theorem text_takes (what : String) :
    Takes (text what) fun text front => writeText text = .ok front := by
  refine takes_bind (number_takes 2 what) ?_
  rintro length header ⟨rfl, small⟩
  refine takes_bind (take_takes length what) ?_
  rintro body front ⟨rfl, long⟩
  split
  · rename_i text decoded
    have encoded := Utf8.encode_of_decoded decoded
    have size : text.utf8ByteSize = length := by rw [← Utf8.encode_length, encoded, long]
    refine takes_pure ?_
    rw [writeText, size, if_pos small, encoded, List.append_nil]
  · exact takes_fail _ _

-- The guard on a count takes nothing, it only refuses.
theorem entries_takes (what : String) (least : Nat) :
    Takes (entries what least) fun count front =>
      front = Bytes.bigEndian 4 count ∧ count < 256 ^ 4 := by
  refine takes_bind (number_takes 4 what) ?_
  rintro n front counted bytes count rest done
  dsimp only at done
  split at done
  · cases done
  · cases done
    exact ⟨[], ⟨(List.append_nil front).trans counted.1, counted.2⟩, rfl⟩

theorem many_after_takes {read : Reader α} {shape : α → Bytes → Prop}
    (run : List α → Bytes → Prop) (takes : Takes read shape) (nothing : run [] [])
    (more : ∀ item items front back, shape item front → run items back →
      run (item :: items) (front ++ back)) (found : List α) (n : Nat) :
    Takes (manyAfter read found n) fun items front =>
      ∃ others, items = found.reverse ++ others ∧ others.length = n ∧ run others front := by
  induction n generalizing found with
  | zero =>
    intro bytes items rest done
    cases done
    exact ⟨[], ⟨[], (List.append_nil _).symm, rfl, nothing⟩, rfl⟩
  | succ n ih =>
    intro bytes items rest done
    simp only [manyAfter] at done
    split at done
    · cases done
    · rename_i item middle reached
      obtain ⟨front, shaped, rfl⟩ := takes bytes item middle reached
      obtain ⟨back, ⟨others, rfl, count, ran⟩, rfl⟩ := ih (item :: found) middle items rest done
      refine ⟨front ++ back, ⟨item :: others, ?_, ?_, more item others front back shaped ran⟩,
        (List.append_assoc _ _ _).symm⟩
      · rw [List.reverse_cons, List.append_assoc, List.singleton_append]
      · rw [List.length_cons, count]

theorem many_takes {read : Reader α} {shape : α → Bytes → Prop} (run : List α → Bytes → Prop)
    (takes : Takes read shape) (nothing : run [] [])
    (more : ∀ item items front back, shape item front → run items back →
      run (item :: items) (front ++ back)) (n : Nat) :
    Takes (many read n) fun items front => items.length = n ∧ run items front := by
  intro bytes items rest done
  obtain ⟨front, ⟨others, rfl, count, ran⟩, cut⟩ :=
    many_after_takes run takes nothing more [] n bytes items rest done
  exact ⟨front, ⟨count, ran⟩, cut⟩

theorem many_written {read : Reader α} {write : α → Except Error Bytes}
    (takes : Takes read fun item front => write item = .ok front) (n : Nat) :
    Takes (many read n) fun items front => items.length = n ∧ writeEach write items = .ok front := by
  refine many_takes (fun items front => writeEach write items = .ok front) takes rfl ?_ n
  intro item items front back itemWritten itemsWritten
  rw [write_each_cons, itemWritten, itemsWritten]
  rfl

end Reader

end HeapScope.Wire
