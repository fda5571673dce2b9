import HeapScope.Wire.Commands

namespace HeapScope

structure OpenControl where
  space : SpaceId
  remaining : Nat
deriving DecidableEq, Repr

structure FrameBuilder where
  payload : Bytes
  openControl : Option OpenControl
deriving DecidableEq, Repr

namespace FrameBuilder

def empty : FrameBuilder := ⟨[], none⟩

def headerLength : Nat := 4

def checkFilled (builder : FrameBuilder) : Except Error Unit :=
  match builder.openControl with
  | some block => .error (.incompleteControl block.space block.remaining)
  | none => .ok ()

def append (builder : FrameBuilder) (command : Command) : Except Error FrameBuilder := do
  builder.checkFilled
  let bytes ← Wire.encode command
  return { builder with payload := builder.payload ++ bytes }

def beginControl (builder : FrameBuilder) (space : SpaceId) (length : UInt32) :
    Except Error FrameBuilder := do
  builder.checkFilled
  let header := (Command.control space []).opcode :: space.number
    :: Bytes.bigEndian 4 length.toNat
  return {
    payload := builder.payload ++ header
    openControl := if length.toNat = 0 then none else some ⟨space, length.toNat⟩ }

def putControl (builder : FrameBuilder) (flags : TileFlags) : Except Error FrameBuilder :=
  match builder.openControl with
  | none => .error .noOpenControl
  | some block => .ok {
      payload := builder.payload ++ [flags.bits]
      openControl :=
        if block.remaining = 1 then none
        else some { block with remaining := block.remaining - 1 } }

def finish (builder : FrameBuilder) : Except Error (Bytes × FrameBuilder) := do
  builder.checkFilled
  let header ← Wire.writeCount headerLength "frame bytes" builder.payload.length
  return (header ++ builder.payload, empty)

inductive Call where
  | append (command : Command)
  | beginControl (space : SpaceId) (length : UInt32)
  | putControl (flags : TileFlags)
  | reset
  | finish
deriving DecidableEq, Repr

def perform (builder : FrameBuilder) : Call → Except Error (Option Bytes) × FrameBuilder
  | .append command => settle builder (builder.append command)
  | .beginControl space length => settle builder (builder.beginControl space length)
  | .putControl flags => settle builder (builder.putControl flags)
  | .reset => (.ok none, empty)
  | .finish =>
    match builder.finish with
    | .ok (frame, next) => (.ok (some frame), next)
    | .error error => (.error error, builder)
where
  settle (old : FrameBuilder) : Except Error FrameBuilder → Except Error (Option Bytes) × FrameBuilder
    | .ok changed => (.ok none, changed)
    | .error error => (.error error, old)

def performAll (builder : FrameBuilder) : List Call → Except Error (Option Bytes) × FrameBuilder
  | [] => (.ok none, builder)
  | [call] => builder.perform call
  | call :: calls =>
    match builder.perform call with
    | (.error error, builder) => (.error error, builder)
    | (.ok _, builder) => performAll builder calls

end FrameBuilder

end HeapScope
