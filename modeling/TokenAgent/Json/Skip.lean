import TokenAgent.Json.Number
import TokenAgent.Json.Text

/-!
# Passing over values

Fields that a record does not know are passed over.  Their values have to be well-formed, but
depth, the size of numbers and lone surrogates do not matter.

`Reader.skipValue` goes through the value token by token and keeps a stack of what is open, so
its depth is no burden.
-/

namespace TokenAgent

namespace Json

/-- A list or an object that has been opened and not closed. -/
inductive Enclosure where
  | list
  | object
  deriving DecidableEq, Repr

/-- What may come next while a value is passed over. -/
inductive Expectation where
  /-- A value. -/
  | value
  /-- The first item of a list, or its end. -/
  | firstItem
  /-- A member of an object. -/
  | member
  /-- The first member of an object, or its end. -/
  | firstMember
  /-- A comma, or the end of what encloses the last value. -/
  | separator
  deriving DecidableEq, Repr

namespace Reader

/-- How it goes on behind a value: not at all once nothing is open. -/
def behindValue (enclosing : List Enclosure) : Option (Expectation × List Enclosure) :=
  if enclosing.isEmpty then none else some (.separator, enclosing)

/-- Pass over a simple value, or the bracket or brace that opens another one. -/
def skipStart (enclosing : List Enclosure) : Reader (Option (Expectation × List Enclosure)) := do
  match ← next with
  | 'n' =>
      word "null".toList
      return behindValue enclosing
  | 't' =>
      word "true".toList
      return behindValue enclosing
  | 'f' =>
      word "false".toList
      return behindValue enclosing
  | '"' =>
      advance
      skipText
      return behindValue enclosing
  | '[' =>
      advance
      return some (.firstItem, .list :: enclosing)
  | '\x7b' =>
      advance
      return some (.firstMember, .object :: enclosing)
  | c =>
      if c = '-' || c.isDigit then
        skipNumber
        return behindValue enclosing
      else throw .malformed

/-- Pass over the label of a member and its colon. -/
def skipLabel (enclosing : List Enclosure) : Reader (Option (Expectation × List Enclosure)) := do
  if (← next) = '"' then
    advance
    skipText
    colon
    return some (.value, enclosing)
  else throw .malformed

/-- Pass over the end of what was opened last. -/
def skipEnd (enclosing : List Enclosure) : Reader (Option (Expectation × List Enclosure)) := do
  advance
  return behindValue enclosing.tail

/-- Pass over one step of a value and tell what may come next, if anything. -/
def skipStep (expected : Expectation) (enclosing : List Enclosure) :
    Reader (Option (Expectation × List Enclosure)) := do
  let c ← next
  match expected with
  | .value => skipStart enclosing
  | .member => skipLabel enclosing
  | .firstItem => if c = ']' then skipEnd enclosing else skipStart enclosing
  | .firstMember => if c = '\x7d' then skipEnd enclosing else skipLabel enclosing
  | .separator =>
      match enclosing.head? with
      | some .list =>
          if c = ',' then
            advance
            return some (.value, enclosing)
          else if c = ']' then skipEnd enclosing
          else throw .malformed
      | _ =>
          if c = ',' then
            advance
            return some (.member, enclosing)
          else if c = '\x7d' then skipEnd enclosing
          else throw .malformed

/-- Take steps until the value is over.  Every step takes a character at least, so a bound of
the length of the text is never reached before its end. -/
def skipSteps : (bound : Nat) → Expectation → List Enclosure → Reader Unit
  | 0, _, _ => throw .ended
  | bound + 1, expected, enclosing => do
      match ← skipStep expected enclosing with
      | none => return ()
      | some (expected, enclosing) => skipSteps bound expected enclosing

/-- Pass over a value. -/
def skipValue : Reader Unit := do
  skipSteps ((← get).length + 1) .value []

end Reader

end Json

end TokenAgent
