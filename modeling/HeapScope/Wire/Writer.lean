import HeapScope.Error
import HeapScope.Utf8

namespace HeapScope.Wire

def noStream : UInt8 := 0xff

def protocolVersion : UInt8 := 1

def writeText (text : String) : Except Error Bytes :=
  if text.utf8ByteSize < 256 ^ 2 then
    .ok (Bytes.bigEndian 2 text.utf8ByteSize ++ Utf8.encode text)
  else .error (.stringTooLong text.utf8ByteSize)

def writeCount (width : Nat) (what : String) (count : Nat) : Except Error Bytes :=
  if count < 256 ^ width then .ok (Bytes.bigEndian width count)
  else .error (.tooManyItems what count)

def writeEach (write : α → Except Error Bytes) (items : List α) : Except Error Bytes := do
  let pieces ← items.mapM write
  return pieces.flatten

def writeValue (kind : ValueKind) (value : Int32) : Except Error Bytes :=
  if kind.holds value then .ok (kind.encode value) else .error (.valueOutOfRange value kind)

def writeInt (value : Int32) : Bytes := ValueKind.int.encode value

def writeBool (b : Bool) : Bytes := [if b then 1 else 0]

end HeapScope.Wire
