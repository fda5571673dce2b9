import HeapScope.Bytes

/- Text as UTF-8 bytes, and where a byte string first stops being UTF-8. A fault is described by the index
   of the sequence it lies in and the number of bytes of that sequence that fit together; a sequence cut
   short by the end of the bytes has no such number. -/
namespace HeapScope.Utf8

def encode (text : String) : Bytes := text.toByteArray.data.toList

def decode? (bytes : Bytes) : Option String := String.fromUTF8? ⟨bytes.toArray⟩

theorem decode_encode (text : String) : decode? (encode text) = some text := by
  have array : (⟨(encode text).toArray⟩ : ByteArray) = text.toByteArray := by simp [encode]
  simp only [decode?, array, String.fromUTF8?, dif_pos text.isValidUTF8]
  rfl

theorem encode_of_decoded {bytes : Bytes} {text : String} (decoded : decode? bytes = some text) :
    encode text = bytes := by
  unfold decode? String.fromUTF8? at decoded
  split at decoded
  · cases decoded
    simp [encode, String.fromUTF8]
  · cases decoded

theorem encode_length (text : String) : (encode text).length = text.utf8ByteSize := rfl

inductive Fault where
  | invalid (index width : Nat)
  | incomplete (index : Nat)
deriving DecidableEq, Repr

def Fault.text : Fault → String
  | .invalid index width => s!"invalid utf-8 sequence of {width} bytes from index {index}"
  | .incomplete index => s!"incomplete utf-8 byte sequence from index {index}"

structure Range where
  low : UInt8
  high : UInt8

def Range.holds (range : Range) (byte : UInt8) : Bool := range.low ≤ byte && byte ≤ range.high

def continuation : Range := ⟨0x80, 0xbf⟩

def following (byte : UInt8) : Option (List Range) :=
  if byte < 0x80 then some []
  else if byte < 0xc2 then none
  else if byte < 0xe0 then some [continuation]
  else if byte = 0xe0 then some [⟨0xa0, 0xbf⟩, continuation]
  else if byte = 0xed then some [⟨0x80, 0x9f⟩, continuation]
  else if byte < 0xf0 then some [continuation, continuation]
  else if byte = 0xf0 then some [⟨0x90, 0xbf⟩, continuation, continuation]
  else if byte < 0xf4 then some [continuation, continuation, continuation]
  else if byte = 0xf4 then some [⟨0x80, 0x8f⟩, continuation, continuation]
  else none

def faultFrom (index seen : Nat) : List Range → Bytes → Option Fault
  | [], [] => none
  | _ :: _, [] => some (.incomplete index)
  | [], byte :: rest =>
    match following byte with
    | none => some (.invalid (index + seen) 1)
    | some ranges => faultFrom (index + seen) 1 ranges rest
  | range :: ranges, byte :: rest =>
    if range.holds byte then faultFrom index (seen + 1) ranges rest
    else some (.invalid index seen)

def firstFault (bytes : Bytes) : Option Fault := faultFrom 0 0 [] bytes

end HeapScope.Utf8
