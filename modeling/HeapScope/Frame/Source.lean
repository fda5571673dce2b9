import HeapScope.Wire.Commands

/- A source of bytes that hands them out in short reads, and frames read from it one at a time. A read
   gives at most the front piece, an empty piece is an end of data; behind the last piece the source fails
   with its `ending`. -/
namespace HeapScope

structure ByteSource where
  pieces : List Bytes
  ending : Transport
deriving DecidableEq, Repr

namespace ByteSource

def inPieces (size : Nat) (bytes : Bytes) (ending : Transport) : ByteSource where
  pieces := (List.range ((bytes.length + size - 1) / size)).map fun i =>
    (bytes.drop (i * size)).take size
  ending := ending

def left (source : ByteSource) : Nat := source.pieces.flatten.length

def takeExactly (ending : Transport) : Nat → List Bytes → Except Transport Bytes × List Bytes
  | 0, pieces => (.ok [], pieces)
  | _ + 1, [] => (.error ending, [])
  | n + 1, piece :: pieces =>
    if piece.isEmpty then (.error .endOfData, pieces)
    else if piece.length ≤ n + 1 then
      let (more, rest) := takeExactly ending (n + 1 - piece.length) pieces
      (more.map (piece ++ ·), rest)
    else (.ok (piece.take (n + 1)), piece.drop (n + 1) :: pieces)

-- Exactly `n` bytes. What was taken before a failure is gone.
def take (source : ByteSource) (n : Nat) : Except Transport Bytes × ByteSource :=
  let (taken, pieces) := takeExactly source.ending n source.pieces
  (taken, { source with pieces })

-- The next frame; none when the data ends before its header is complete.
def readFrame (source : ByteSource) (limit : Nat) :
    Except Error (Option (List Command)) × ByteSource :=
  match source.take 4 with
  | (.error .endOfData, source) => (.ok none, source)
  | (.error cause, source) => (.error (.transport cause), source)
  | (.ok header, source) =>
    let length := Bytes.number header
    if limit < length then (.error (.frameTooLarge length limit), source)
    else
      match source.take length with
      | (.error cause, source) => (.error (.transport cause), source)
      | (.ok payload, source) => ((Wire.decode payload).map some, source)

theorem take_exactly_ok {ending : Transport} {n : Nat} {pieces rest : List Bytes} {taken : Bytes}
    (reached : takeExactly ending n pieces = (.ok taken, rest)) :
    pieces.flatten = taken ++ rest.flatten ∧ taken.length = n := by
  induction pieces generalizing n taken rest with
  | nil =>
    cases n with
    | zero =>
      cases reached
      exact ⟨rfl, rfl⟩
    | succ n => cases reached
  | cons piece pieces ih =>
    cases n with
    | zero =>
      cases reached
      exact ⟨rfl, rfl⟩
    | succ n =>
      unfold takeExactly at reached
      split at reached
      · cases reached
      · split at reached
        · cases more : takeExactly ending (n + 1 - piece.length) pieces with
          | mk found left =>
            rw [more] at reached
            cases found with
            | error cause => cases reached
            | ok found =>
              cases reached
              have inner := ih more
              refine ⟨by simp [inner.1], ?_⟩
              have whole := inner.2
              simp only [List.length_append]
              omega
        · cases reached
          refine ⟨by simp [← List.append_assoc, List.take_append_drop], ?_⟩
          simp only [List.length_take]
          omega

theorem take_ok {source rest : ByteSource} {n : Nat} {taken : Bytes}
    (reached : source.take n = (.ok taken, rest)) :
    source.pieces.flatten = taken ++ rest.pieces.flatten ∧ taken.length = n := by
  unfold take at reached
  cases found : takeExactly source.ending n source.pieces with
  | mk outcome pieces =>
    rw [found] at reached
    cases reached
    exact take_exactly_ok found

theorem take_left {source rest : ByteSource} {n : Nat} {taken : Bytes}
    (reached : source.take n = (.ok taken, rest)) : source.left = n + rest.left := by
  have whole := take_ok reached
  simp only [left, whole.1, List.length_append, whole.2]

theorem read_frame_left {source rest : ByteSource} {limit : Nat} {commands : List Command}
    (reached : source.readFrame limit = (.ok (some commands), rest)) : rest.left < source.left := by
  unfold readFrame at reached
  split at reached
  · cases reached
  · cases reached
  · rename_i header middle headerTaken
    have headerLeft := take_left headerTaken
    dsimp only at reached
    split at reached
    · cases reached
    · split at reached
      · cases reached
      · rename_i payload final payloadTaken
        have payloadLeft := take_left payloadTaken
        have same : final = rest := congrArg Prod.snd reached
        subst same
        omega

end ByteSource

end HeapScope
