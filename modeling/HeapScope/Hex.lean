import HeapScope.Bytes
import HeapScope.Digits

namespace HeapScope.Hex

def digits (n : Nat) : String := String.ofList (Nat.toDigits 16 n)

def text (n : Nat) : String := "0x" ++ digits n

def byteText (byte : UInt8) : String :=
  let spelled := digits byte.toNat
  if spelled.length < 2 then "0x0" ++ spelled else "0x" ++ spelled

def ofBytes (bytes : Bytes) : String :=
  String.ofList
    (bytes.flatMap fun byte => [Nat.digitChar (byte.toNat / 16), Nat.digitChar (byte.toNat % 16)])

def bytesAfter? (back : Bytes) : List Char → Option Bytes
  | [] => some back.reverse
  | [_] => none
  | high :: low :: rest =>
    match Digits.digit? 16 high, Digits.digit? 16 low with
    | some high, some low => bytesAfter? (UInt8.ofNat (high * 16 + low) :: back) rest
    | _, _ => none

def bytes? (text : String) : Option Bytes := bytesAfter? [] text.toList

end HeapScope.Hex
