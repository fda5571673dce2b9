import HeapScope.Settings

namespace HeapScope.Settings

def enabledVariable : String := "GCSPY_ENABLED"
def portVariable : String := "GCSPY_PORT"
def addressVariable : String := "GCSPY_BIND_ADDRESS"
def waitVariable : String := "GCSPY_WAIT"

-- The characters with the Unicode property White_Space.
def isSpace (c : Char) : Bool :=
  let n := c.toNat
  (0x9 ≤ n && n ≤ 0xd) || n = 0x20 || n = 0x85 || n = 0xa0 || n = 0x1680
    || (0x2000 ≤ n && n ≤ 0x200a) || n = 0x2028 || n = 0x2029 || n = 0x202f || n = 0x205f
    || n = 0x3000

def trimmed (text : List Char) : List Char :=
  ((text.dropWhile isSpace).reverse.dropWhile isSpace).reverse

def yesWords : List String := ["1", "true", "yes", "on"]

def noWords : List String := ["0", "false", "no", "off"]

def readFlag (name text : String) : Except Error Bool :=
  let word := String.ofList ((trimmed text.toList).map Char.toLower)
  if yesWords.contains word then .ok true
  else if noWords.contains word then .ok false
  else refused (.notBoolean name word)

def readPort (name text : String) : Except Error UInt16 :=
  match Digits.readUnsigned 10 (2 ^ 16) (trimmed text.toList) with
  | .ok port => .ok (UInt16.ofNat port)
  | .error fault => refused (.notAPort name text fault)

def override (lookup : String → Option String) (name : String) (value : α)
    (read : String → String → Except Error α) : Except Error α :=
  match lookup name with
  | none => .ok value
  | some text => read name text

def withEnvironment (settings : Settings) (lookup : String → Option String) :
    Except Error Settings := do
  let enabled ← override lookup enabledVariable settings.enabled readFlag
  let port ← override lookup portVariable settings.port readPort
  let bindAddress ← override lookup addressVariable settings.bindAddress fun _ text => .ok text
  let waitForClient ← override lookup waitVariable settings.waitForClient readFlag
  validated { settings with enabled, port, bindAddress, waitForClient }

end HeapScope.Settings
