import HeapScope.Frame.Splitter

namespace HeapScope

structure ClientReader where
  generation : Nat
  splitter : FrameSplitter
  commands : List Command
  ended : Bool
deriving DecidableEq, Repr

namespace ClientReader

def start (generation limit : Nat) : ClientReader := ⟨generation, .ofLimit limit, [], false⟩

def feed (reader : ClientReader) (bytes : Bytes) : ClientReader :=
  { reader with splitter := reader.splitter.feed bytes }

inductive Move where
  | wait
  | decode (next : ClientReader)
  | apply (command : Command) (next : ClientReader)
  | leave

def move (reader : ClientReader) : Move :=
  match reader.commands with
  | .disconnect :: _ => .leave
  | command :: commands => .apply command { reader with commands }
  | [] =>
    match reader.splitter.next with
    | (.error _, _) => .leave
    | (.ok none, _) => if reader.ended then .leave else .wait
    | (.ok (some commands), splitter) => .decode { reader with splitter, commands }

-- No fewer moves than the reader can make before it waits or leaves.
def movesLeft (reader : ClientReader) : Nat :=
  2 * reader.splitter.buffered.length + reader.commands.length + 1

end ClientReader

end HeapScope
