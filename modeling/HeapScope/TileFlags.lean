/- The control bits of one tile. Five bits have a meaning; bits read from a byte stream are cut to those,
   bits built in memory may hold others. -/
namespace HeapScope

structure TileFlags where
  bits : UInt8
deriving DecidableEq, Repr

namespace TileFlags

def used : TileFlags := ⟨1⟩
def background : TileFlags := ⟨2⟩
def unused : TileFlags := ⟨4⟩
def separator : TileFlags := ⟨8⟩
def link : TileFlags := ⟨16⟩
def empty : TileFlags := ⟨0⟩

def ofByte (byte : UInt8) : TileFlags := ⟨byte &&& 0x1f⟩

def contains (flags other : TileFlags) : Bool := flags.bits &&& other.bits = other.bits

def union (flags other : TileFlags) : TileFlags := ⟨flags.bits ||| other.bits⟩

def insert (flags other : TileFlags) : TileFlags := flags.union other

def remove (flags other : TileFlags) : TileFlags := ⟨flags.bits &&& ~~~other.bits⟩

def isUsed (flags : TileFlags) : Bool := flags.contains used && !flags.contains unused

def named : List (TileFlags × String) :=
  [(used, "USED"), (background, "BACKGROUND"), (unused, "UNUSED"), (separator, "SEPARATOR"),
    (link, "LINK")]

def names (flags : TileFlags) : List String :=
  (named.filter fun entry => flags.contains entry.1).map (·.2)

def text (flags : TileFlags) : String :=
  match flags.names with
  | [] => "ControlFlags(empty)"
  | names => "ControlFlags(" ++ " | ".intercalate names ++ ")"

theorem of_byte_idempotent (byte : UInt8) : ofByte (ofByte byte).bits = ofByte byte := by
  simp [ofByte, UInt8.and_assoc]

end TileFlags

end HeapScope
