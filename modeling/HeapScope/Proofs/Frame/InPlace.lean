import HeapScope.Frame.InPlace
import HeapScope.Proofs.Wire.Fields

/- Filling a frame in place comes to the same as writing each command by itself first. What a field puts
   into the buffer is what its writer gives, whatever is in the buffer before, and a writer that fails is
   a field that is refused behind some part already put (`Fills`); the cut takes that part away. -/
namespace HeapScope

namespace Filling

def fill (fields : Filling Unit) (buffer : Bytes) : Except Error Unit × Bytes :=
  (fields.run.run buffer).run

def Fills (fields : Filling Unit) (written : Except Error Bytes) : Prop :=
  ∀ buffer,
    match written with
    | .ok bytes => fields.fill buffer = (.ok (), buffer ++ bytes)
    | .error error => ∃ part, fields.fill buffer = (.error error, buffer ++ part)

theorem fill_then {first rest : Filling Unit} {buffer next : Bytes}
    (filled : first.fill buffer = (.ok (), next)) :
    fill (do first; rest) buffer = rest.fill next := by
  have ran : first.run.run buffer = (.ok (), next) := filled
  show ((first >>= fun _ => rest).run.run buffer).run = _
  rw [ExceptT.run_bind, StateT.run_bind, ran]
  rfl

theorem fill_refused {first rest : Filling Unit} {buffer next : Bytes} {error : Error}
    (refused : first.fill buffer = (.error error, next)) :
    fill (do first; rest) buffer = (.error error, next) := by
  have ran : first.run.run buffer = (.error error, next) := refused
  show ((first >>= fun _ => rest).run.run buffer).run = _
  rw [ExceptT.run_bind, StateT.run_bind, ran]
  rfl

theorem fills_put (bytes : Bytes) : Fills (put bytes) (return bytes) := fun _ => rfl

theorem fills_nothing : Fills (pure ()) (return []) := fun buffer =>
  congrArg (Prod.mk _) (List.append_nil buffer).symm

theorem fills_throw (error : Error) : Fills (throw error) (.error error) := fun buffer =>
  ⟨[], by rw [List.append_nil]; rfl⟩

theorem fills_then {first rest : Filling Unit} {written behind : Except Error Bytes}
    (firstFills : Fills first written) (restFills : Fills rest behind) :
    Fills (do first; rest) (do
      let bytes ← written
      let more ← behind
      return bytes ++ more) := by
  intro buffer
  have firstFill := firstFills buffer
  cases written with
  | error error =>
    obtain ⟨part, refused⟩ := firstFill
    exact ⟨part, fill_refused refused⟩
  | ok bytes =>
    have restFill := restFills (buffer ++ bytes)
    cases behind with
    | error error =>
      obtain ⟨part, refused⟩ := restFill
      exact ⟨bytes ++ part, by rw [fill_then firstFill, refused, List.append_assoc]⟩
    | ok more =>
      show fill _ buffer = _
      rw [fill_then firstFill, restFill, List.append_assoc]

theorem fills_behind {rest : Filling Unit} {behind : Except Error Bytes} (bytes : Bytes)
    (restFills : Fills rest behind) :
    Fills (do put bytes; rest) (do
      let more ← behind
      return bytes ++ more) :=
  fills_then (fills_put bytes) restFills

theorem fills_text (text : String) : Fills (putText text) (Wire.writeText text) := by
  unfold putText Wire.writeText
  split
  · exact fills_then (fills_put _) (fills_put _)
  · exact fills_throw _

theorem fills_count (width : Nat) (what : String) (count : Nat) :
    Fills (putCount width what count) (Wire.writeCount width what count) := by
  unfold putCount Wire.writeCount
  split
  · exact fills_put _
  · exact fills_throw _

theorem fills_value (kind : ValueKind) (value : Int32) :
    Fills (putValue kind value) (Wire.writeValue kind value) := by
  unfold putValue Wire.writeValue
  split
  · exact fills_put _
  · exact fills_throw _

theorem fills_each {putOne : α → Filling Unit} {write : α → Except Error Bytes}
    (each : ∀ item, Fills (putOne item) (write item)) (items : List α) :
    Fills (items.forM putOne) (Wire.writeEach write items) := by
  induction items with
  | nil => exact fills_nothing
  | cons item items ih =>
    rw [Wire.write_each_cons]
    exact fills_then (each item) ih

theorem write_each_unchecked (write : α → Bytes) (items : List α) :
    Wire.writeEach (fun item => return write item) items = return items.flatMap write := by
  induction items with
  | nil => rfl
  | cons item items ih =>
    rw [Wire.write_each_cons, ih]
    rfl

theorem fills_stream (stream : StreamDescriptor) :
    Fills (putStream stream) (Wire.writeStream stream) := by
  have piecewise := fills_behind [stream.id.number] <|
    fills_then (fills_text stream.name) <|
    fills_behind [stream.kind.code] <|
    fills_behind (Wire.writeInt stream.minValue) <|
    fills_behind (Wire.writeInt stream.maxValue) <|
    fills_behind (Wire.writeInt stream.zeroValue) <|
    fills_behind (Wire.writeInt stream.defaultValue) <|
    fills_then (fills_text stream.labelBefore) <|
    fills_then (fills_text stream.labelAfter) <|
    fills_behind [stream.presentation.code] <|
    fills_behind [stream.paintStyle.code] <|
    fills_behind [(stream.maxStream.map (·.number)).getD Wire.noStream] <|
    fills_behind [stream.color.red] <|
    fills_behind [stream.color.green] <|
    fills_behind [stream.color.blue] <|
    fills_put (Wire.writeBool stream.summary)
  simpa [putStream, Wire.writeStream] using piecewise

theorem fills_space (space : SpaceDescriptor) :
    Fills (putSpace space) (Wire.writeSpace space) := by
  have piecewise := fills_behind [space.id.number] <|
    fills_then (fills_text space.name) <|
    fills_then (fills_text space.driverName) <|
    fills_then (fills_text space.title) <|
    fills_then (fills_text space.blockInfo) <|
    fills_behind (Bytes.bigEndian 4 space.tileCount.toNat) <|
    fills_then (fills_text space.unusedLabel) <|
    fills_behind (Wire.writeBool space.mainSpace) <|
    fills_then (fills_count 1 "streams" space.streams.length) <|
    fills_each fills_stream space.streams
  simpa [putSpace, Wire.writeSpace] using piecewise

theorem fills_server (info : ServerInfo) : Fills (putServer info) (Wire.writeServer info) := by
  have piecewise := fills_behind [Wire.protocolVersion] <|
    fills_then (fills_text info.name) <|
    fills_then (fills_text info.version) <|
    fills_then (fills_text info.generalInfo) <|
    fills_then (fills_count 2 "events" info.events.length) <|
    fills_then (fills_each fills_text info.events) <|
    fills_then (fills_count 1 "spaces" info.spaces.length) <|
    fills_each fills_space info.spaces
  simpa [putServer, Wire.writeServer] using piecewise

theorem fills_fields (command : Command) : Fills (putFields command) (Wire.writeFields command) := by
  cases command with
  | hello info => exact fills_server info
  | spaceDef space => exact fills_space space
  | spaceBegin space event tileCount =>
    have piecewise := fills_behind [space.number] <|
      fills_behind (Bytes.bigEndian 2 event.index) <|
      fills_put (Bytes.bigEndian 4 tileCount.toNat)
    simpa [putFields, Wire.writeFields] using piecewise
  | tileNames space names =>
    have piecewise := fills_behind [space.number] <|
      fills_then (fills_count 4 "tile names" names.length) <|
      fills_each fills_text names
    simpa [putFields, Wire.writeFields] using piecewise
  | streamData space stream kind values =>
    have piecewise := fills_behind [space.number] <|
      fills_behind [stream.number] <|
      fills_behind [kind.code] <|
      fills_then (fills_count 4 "stream values" values.length) <|
      fills_each (fills_value kind) values
    simpa [putFields, Wire.writeFields] using piecewise
  | control space flags =>
    have piecewise := fills_behind [space.number] <|
      fills_then (fills_count 4 "control block" flags.length) <|
      fills_put (flags.map (·.bits))
    simpa [putFields, Wire.writeFields] using piecewise
  | summary space stream values =>
    have piecewise := fills_behind [space.number] <|
      fills_behind [stream.number] <|
      fills_then (fills_count 4 "summary values" values.length) <|
      fills_each (fun value => fills_put (Wire.writeInt value)) values
    simpa [putFields, Wire.writeFields, write_each_unchecked] using piecewise
  | spaceInfo space info => exact fills_behind [space.number] (fills_text info)
  | spaceEnd space => exact fills_put [space.number]
  | safepoint event count compensation =>
    have piecewise := fills_behind (Bytes.bigEndian 2 event.index) <|
      fills_behind (Bytes.bigEndian 4 count.toNat) <|
      fills_put (Bytes.bigEndian 8 compensation.microseconds)
    simpa [putFields, Wire.writeFields] using piecewise
  | enableEvent event enabled =>
    exact fills_behind (Bytes.bigEndian 2 event.index) (fills_put (Wire.writeBool enabled))
  | shutdown => exact fills_nothing
  | play => exact fills_nothing
  | pause => exact fills_nothing
  | step => exact fills_nothing
  | disconnect => exact fills_nothing

end Filling

namespace FrameBuilder

open Filling

-- What is put behind the opcode stays when all of it is put, and goes with the opcode when not.
theorem enter_settles {fields : Filling Unit} {written : Except Error Bytes}
    (fieldsFill : Fills fields written) (builder : FrameBuilder) (opcode : UInt8) :
    builder.enter opcode fields = perform.settle builder (do
      builder.checkFilled
      let bytes ← written
      return { builder with payload := builder.payload ++ opcode :: bytes }) := by
  unfold enter
  cases builder.checkFilled with
  | error error => rfl
  | ok checked =>
    have filled := fieldsFill (builder.payload ++ [opcode])
    cases written with
    | error error =>
      obtain ⟨part, refused⟩ := filled
      unfold fill at refused
      dsimp only
      rw [refused]
      dsimp only
      rw [List.append_assoc, List.take_left]
      rfl
    | ok bytes =>
      unfold fill at filled
      dsimp only
      rw [filled, List.append_assoc]
      rfl

theorem append_in_place (builder : FrameBuilder) (command : Command) :
    builder.performInPlace (.append command) = builder.perform (.append command) := by
  refine (enter_settles (fills_fields command) builder _).trans ?_
  unfold perform append Wire.encode
  simp

theorem begin_control_in_place (builder : FrameBuilder) (space : SpaceId) (length : UInt32) :
    builder.performInPlace (.beginControl space length) =
      builder.perform (.beginControl space length) := by
  have header := fills_behind [space.number] (fills_put (Bytes.bigEndian 4 length.toNat))
  have filled := enter_settles header builder (Command.control space []).opcode
  unfold performInPlace perform beginControl
  dsimp only
  rw [filled]
  obtain ⟨payload, _ | block⟩ := builder
  · by_cases none : length.toNat = 0
    · simp only [none]
      rfl
    · have some : 0 < length.toNat := Nat.pos_of_ne_zero none
      simp only [checkFilled, perform.settle, bind, Except.bind, pure, Except.pure, if_neg none, if_pos some]
      rfl
  · rfl

theorem finish_in_place (builder : FrameBuilder) :
    builder.performInPlace .finish = builder.perform .finish := by
  unfold performInPlace perform finish Wire.writeCount
  cases builder.checkFilled with
  | error error => rfl
  | ok checked =>
    by_cases small : builder.payload.length < 256 ^ headerLength
    · simp only [small]
      rfl
    · simp only [small]
      rfl

end FrameBuilder

end HeapScope
