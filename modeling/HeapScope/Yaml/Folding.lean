namespace HeapScope.Yaml

inductive Piece where
  | char (c : Char)
  | blank (c : Char)
  | lineBreak (c : Char)
  | joined

inductive Gap where
  | blanks (kept : List Char)
  | lines (first : Option Char) (more : List Char)

def Gap.nothing : Gap := .blanks []

def Gap.text : Gap → List Char
  | .blanks kept => kept
  | .lines (some '\n') [] => [' ']
  | .lines (some '\n') more => more
  | .lines first more => first.toList ++ more

def Gap.isBroken : Gap → Bool
  | .blanks _ => false
  | .lines .. => true

def Gap.addBlank (gap : Gap) (c : Char) : Gap :=
  match gap with
  | .blanks kept => .blanks (kept ++ [c])
  | .lines .. => gap

def Gap.addBreak (gap : Gap) (c : Char) : Gap :=
  match gap with
  | .blanks _ => .lines (some c) []
  | .lines first more => .lines first (more ++ [c])

def foldPieces (gap : Gap) : List Piece → List Char
  | [] => gap.text
  | .char c :: rest => gap.text ++ c :: foldPieces .nothing rest
  | .blank c :: rest => foldPieces (gap.addBlank c) rest
  | .lineBreak c :: rest => foldPieces (gap.addBreak c) rest
  | .joined :: rest => gap.text ++ foldPieces (.lines none []) rest

def folded (pieces : List Piece) : List Char := foldPieces .nothing pieces

end HeapScope.Yaml
