import TokenAgent.Json.Number
import TokenAgent.Json.Text

/-!
# Values of a wanted shape

Readers for texts, unsigned integers, optional values and lists.  Where something else stands,
the fault names what was found and what was wanted; to name it, a word, a number or a string is
read to its end, while of a list or an object only the start is looked at.
-/

namespace TokenAgent

namespace Json

namespace Reader

/-- What value comes next. -/
def found : Reader Found := do
  match ← next with
  | 'n' =>
      word "null".toList
      return .null
  | 't' =>
      word "true".toList
      return .boolean true
  | 'f' =>
      word "false".toList
      return .boolean false
  | '"' =>
      advance
      return .text (← text)
  | '[' => return .list
  | '\x7b' => return .object
  | c =>
      if c = '-' || c.isDigit then return (← number).found else throw .malformed

/-- The fault of a value that is of another type than `wanted`. -/
def refuseType {α : Type} (wanted : String) : Reader α := do
  refuse (.invalidType (← found) wanted)

/-- A text. -/
def string (wanted : String) : Reader String := do
  if (← next) = '"' then
    advance
    text
  else refuseType wanted

/-- An unsigned integer up to `limit`. -/
def unsigned (limit : Nat) (wanted : String) : Reader Nat := do
  let c ← next
  if c = '-' || c.isDigit then
    match ← number with
    | .natural n =>
        if n ≤ limit then return n else refuse (.invalidValue (.integer n) wanted)
    | .negative n => refuse (.invalidValue (.integer (-n)) wanted)
    | .real sign magnitude => refuse (.invalidType (.real sign magnitude) wanted)
  else refuseType wanted

/-- A value, or null for none. -/
def optional {α : Type} (value : Reader α) : Reader (Option α) := do
  if (← next?) = some 'n' then
    word "null".toList
    return none
  else return some (← value)

/-- Null. -/
def null (wanted : String) : Reader Unit := do
  if (← next) = 'n' then word "null".toList else refuseType wanted

/-- The items of a list up to its bracket, behind those already read, which are in reverse. -/
def items {α : Type} (item : Reader α) : (bound : Nat) → List α → Reader (List α)
  | 0, _ => throw .ended
  | bound + 1, read => do
      if ← moreItems read.isEmpty then
        let a ← item
        items item bound (a :: read)
      else return read.reverse

/-- A list. -/
def list {α : Type} (item : Reader α) (wanted : String) : Reader (List α) := do
  if (← next) = '[' then
    advance
    let read ← items item ((← get).length + 1) []
    closeList
    return read
  else refuseType wanted

/-- One of several names, which stands as a text, or as the only label of an object whose value
is null.  A value of any other type is malformed. -/
def variant {α : Type} (named : String → Option α) (wanted : String) : Reader α := do
  match ← next with
  | '"' =>
      advance
      choose (← text)
  | '\x7b' =>
      advance
      -- A label of any other type is a fault of the text, not of the shape.
      if (← next) ≠ '"' then throw .malformed
      advance
      let a ← choose (← text)
      colon
      null "unit"
      closeObject
      return a
  | _ => throw .malformed
where
  choose (name : String) : Reader α :=
    match named name with
    | some a => return a
    | none => refuse (.unknownVariant name wanted)

end Reader

end Json

end TokenAgent
