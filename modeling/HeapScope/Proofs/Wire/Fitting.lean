import HeapScope.Proofs.Wire.Fields
import HeapScope.Wire.Commands

namespace HeapScope

def Error.isOversize : Error → Bool
  | .stringTooLong _ => true
  | .tooManyItems _ _ => true
  | _ => false

def textFits (text : String) : Bool := text.utf8ByteSize < 256 ^ 2

def StreamDescriptor.fits (stream : StreamDescriptor) : Bool :=
  textFits stream.name && textFits stream.labelBefore && textFits stream.labelAfter

def SpaceDescriptor.fits (space : SpaceDescriptor) : Bool :=
  textFits space.name && textFits space.driverName && textFits space.title && textFits space.blockInfo
    && textFits space.unusedLabel && space.streams.length < 256 && space.streams.all (·.fits)

def ServerInfo.fits (info : ServerInfo) : Bool :=
  textFits info.name && textFits info.version && textFits info.generalInfo
    && info.events.length < 256 ^ 2 && info.events.all textFits
    && info.spaces.length < 256 && info.spaces.all (·.fits)

namespace Wire

inductive Writes : Bool → Except Error Bytes → Prop where
  | written (bytes : Bytes) : Writes true (.ok bytes)
  | refused (error : Error) (oversize : error.isOversize = true) : Writes false (.error error)

theorem writes_fitting {result : Except Error Bytes} (writes : Writes true result) :
    ∃ bytes, result = .ok bytes := by
  cases writes with
  | written bytes => exact ⟨bytes, rfl⟩

theorem writes_oversize {result : Except Error Bytes} (writes : Writes false result) :
    ∃ error, result = .error error ∧ error.isOversize = true := by
  cases writes with
  | refused error oversize => exact ⟨error, rfl, oversize⟩

theorem writes_refused {fits : Bool} {error : Error} (writes : Writes fits (.error error)) :
    error.isOversize = true := by
  cases writes with
  | refused _ oversize => exact oversize

theorem writes_bind {fits others : Bool} {first : Except Error Bytes} {next : Bytes → Except Error Bytes}
    (front : Writes fits first) (back : ∀ bytes, Writes others (next bytes)) :
    Writes (fits && others) (first >>= next) := by
  cases front with
  | written bytes => exact back bytes
  | refused error oversize => exact .refused error oversize

theorem text_writes (text : String) : Writes (textFits text) (writeText text) := by
  by_cases small : text.utf8ByteSize < 256 ^ 2
  · simpa only [textFits, writeText, small, if_true, decide_true] using Writes.written _
  · simpa only [textFits, writeText, small, if_false, decide_false] using Writes.refused _ rfl

theorem count_writes (width : Nat) (what : String) (count : Nat) :
    Writes (count < 256 ^ width) (writeCount width what count) := by
  by_cases small : count < 256 ^ width
  · simpa only [writeCount, small, if_true, decide_true] using Writes.written _
  · simpa only [writeCount, small, if_false, decide_false] using Writes.refused _ rfl

theorem each_writes {fits : α → Bool} {write : α → Except Error Bytes}
    (item_writes : ∀ item, Writes (fits item) (write item)) (items : List α) :
    Writes (items.all fits) (writeEach write items) := by
  induction items with
  | nil => exact .written []
  | cons item items ih =>
    have fits : (item :: items).all fits = (fits item && (items.all fits && true)) := by simp
    rw [write_each_cons, fits]
    exact writes_bind (item_writes item) fun front => writes_bind ih fun back => .written (front ++ back)

theorem stream_writes (stream : StreamDescriptor) : Writes stream.fits (writeStream stream) := by
  rw [StreamDescriptor.fits, ← Bool.and_true (_ && _)]
  simp only [Bool.and_assoc]
  exact writes_bind (text_writes stream.name) fun _ =>
    writes_bind (text_writes stream.labelBefore) fun _ =>
    writes_bind (text_writes stream.labelAfter) fun _ => .written _

theorem space_writes (space : SpaceDescriptor) : Writes space.fits (writeSpace space) := by
  rw [SpaceDescriptor.fits, ← Bool.and_true (_ && _)]
  simp only [Bool.and_assoc]
  exact writes_bind (text_writes space.name) fun _ =>
    writes_bind (text_writes space.driverName) fun _ =>
    writes_bind (text_writes space.title) fun _ =>
    writes_bind (text_writes space.blockInfo) fun _ =>
    writes_bind (text_writes space.unusedLabel) fun _ =>
    writes_bind (count_writes 1 "streams" space.streams.length) fun _ =>
    writes_bind (each_writes stream_writes space.streams) fun _ => .written _

theorem server_writes (info : ServerInfo) : Writes info.fits (writeServer info) := by
  rw [ServerInfo.fits, ← Bool.and_true (_ && _)]
  simp only [Bool.and_assoc]
  exact writes_bind (text_writes info.name) fun _ =>
    writes_bind (text_writes info.version) fun _ =>
    writes_bind (text_writes info.generalInfo) fun _ =>
    writes_bind (count_writes 2 "events" info.events.length) fun _ =>
    writes_bind (each_writes text_writes info.events) fun _ =>
    writes_bind (count_writes 1 "spaces" info.spaces.length) fun _ =>
    writes_bind (each_writes space_writes info.spaces) fun _ => .written _

theorem hello_writes (info : ServerInfo) : Writes info.fits (encode (.hello info)) := by
  rw [← Bool.and_true info.fits]
  exact writes_bind (server_writes info) fun fields => .written (_ :: fields)

end Wire

end HeapScope
