import TokenAgent.Json.Text

/-!
# Writing values

Compact JSON: no blanks, members in the order given, integers in decimal.
-/

namespace TokenAgent

namespace Json

/-- A natural number in decimal. -/
def natural (n : Nat) : List Char :=
  (toString n).toList

/-- Pieces with commas between them. -/
def separated : List (List Char) → List Char
  | [] => []
  | [piece] => piece
  | piece :: rest => piece ++ ',' :: separated rest

/-- A list of written values. -/
def array (items : List (List Char)) : List Char :=
  '[' :: separated items ++ [']']

/-- An object of labels and written values. -/
def object (members : List (String × List Char)) : List Char :=
  '\x7b' :: separated (members.map fun m => encode m.1 ++ ':' :: m.2) ++ ['\x7d']

end Json

end TokenAgent
