import HeapScope.Utf8

namespace HeapScope

structure Build where
  revision : Option String := none
  changed : Bool := false
deriving DecidableEq, Repr

namespace Build

def libraryVersion : String := "0.1.0"

-- The first eight bytes, unless a character is cut by that.
def shortened (revision : String) : String :=
  let front := (Utf8.encode revision).take 8
  if front.length = 8 then (Utf8.decode? front).getD revision else revision

def version (build : Build) : String :=
  match build.revision with
  | none => libraryVersion
  | some revision =>
    libraryVersion ++ "-" ++ shortened revision ++ if build.changed then "-dirty" else ""

end Build

end HeapScope
