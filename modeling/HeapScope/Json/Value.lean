/- JSON values and their text. Numbers are integers. A value that is well formed but that nothing here can
   hold, such as a fraction or text with half a surrogate pair, is `other`: it can be passed over but not
   read. Text is written compact, or over lines with two blanks for each level. -/
namespace HeapScope

inductive Json where
  | null
  | bool (b : Bool)
  | number (n : Int)
  | text (s : String)
  | array (items : List Json)
  | object (fields : List (String × Json))
  | other

namespace Json

def escape (c : Char) : String :=
  match c with
  | '"' => "\\\""
  | '\\' => "\\\\"
  | '\x08' => "\\b"
  | '\x0c' => "\\f"
  | '\n' => "\\n"
  | '\r' => "\\r"
  | '\t' => "\\t"
  | c =>
    if c.toNat < 32 then
      "\\u00" ++ String.ofList [Nat.digitChar (c.toNat / 16), Nat.digitChar (c.toNat % 16)]
    else String.singleton c

def quote (s : String) : String :=
  s.toList.foldl (fun written c => written ++ escape c) "\"" ++ "\""

mutual

def compact : Json → String
  | .null | .other => "null"
  | .bool b => if b then "true" else "false"
  | .number n => toString n
  | .text s => quote s
  | .array items => "[" ++ ",".intercalate (compactItems items) ++ "]"
  | .object fields => "\x7b" ++ ",".intercalate (compactFields fields) ++ "\x7d"

def compactItems : List Json → List String
  | [] => []
  | item :: items => compact item :: compactItems items

def compactFields : List (String × Json) → List String
  | [] => []
  | (key, item) :: fields => (quote key ++ ":" ++ compact item) :: compactFields fields

end

def indent (level : Nat) : String := String.ofList (List.replicate (2 * level) ' ')

def block (level : Nat) (opening closing : String) (pieces : List String) : String :=
  match pieces with
  | [] => opening ++ closing
  | pieces =>
    let line := "\n" ++ indent (level + 1)
    opening ++ line ++ ("," ++ line).intercalate pieces ++ "\n" ++ indent level ++ closing

mutual

def prettyAt (level : Nat) : Json → String
  | .null | .other => "null"
  | .bool b => if b then "true" else "false"
  | .number n => toString n
  | .text s => quote s
  | .array items => block level "[" "]" (prettyItems (level + 1) items)
  | .object fields => block level "\x7b" "\x7d" (prettyFields (level + 1) fields)

def prettyItems (level : Nat) : List Json → List String
  | [] => []
  | item :: items => prettyAt level item :: prettyItems level items

def prettyFields (level : Nat) : List (String × Json) → List String
  | [] => []
  | (key, item) :: fields =>
    (quote key ++ ": " ++ prettyAt level item) :: prettyFields level fields

end

def pretty (json : Json) : String := prettyAt 0 json

end Json

end HeapScope
