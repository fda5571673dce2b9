import HeapScope.Utf8

namespace HeapScope

structure LogFile where
  name : String
  text : String
deriving DecidableEq, Repr

-- What stands at the path of the directory, its files in the order in which they were made.
inductive LogPlace where
  | nothing
  | file
  | directory (files : List LogFile)

structure RollingLog where
  older : List LogFile
  -- None if standard error takes what is written.
  today : Option LogFile
deriving DecidableEq, Repr

namespace RollingLog

def stem : String := "gcspy.log"

def mostFiles : Nat := 3

def nameOf (date : String) : String := stem ++ "." ++ date

def isLog (file : LogFile) : Bool := stem.toList.isPrefixOf file.name.toList

def without (files : List LogFile) (removed : List LogFile) : List LogFile :=
  files.filter fun file => !removed.contains file

def pruned (files : List LogFile) : List LogFile :=
  let logs := files.filter isLog
  without files (logs.take (logs.length + 1 - mostFiles))

def start (date : String) : LogPlace → RollingLog
  | .file => ⟨[], none⟩
  | .nothing => ⟨[], some ⟨nameOf date, ""⟩⟩
  | .directory files =>
    let name := nameOf date
    let (same, older) := (pruned files).partition (·.name = name)
    ⟨older, some (same.headD ⟨name, ""⟩)⟩

def write (log : RollingLog) (text : String) : Nat × RollingLog :=
  ((Utf8.encode text).length,
    { log with today := log.today.map fun file => { file with text := file.text ++ text } })

def files (log : RollingLog) : List LogFile := log.older ++ log.today.toList

end RollingLog

end HeapScope
