import TokenAgent.Json.Error

/-!
# Reading JSON

A reader takes characters from the front of a text or fails with the first fault.  This module
holds the steps that all values share: blanks, words, and the punctuation of lists and objects.
-/

namespace TokenAgent

namespace Json

/-- A read from the front of a text. -/
abbrev Reader (α : Type) := StateT (List Char) (Except Error) α

namespace Reader

/-- The blanks between tokens. -/
def isBlank (c : Char) : Bool :=
  c == ' ' || c == '\n' || c == '\t' || c == '\r'

/-- A mismatch. -/
def refuse {α : Type} (what : Mismatch) : Reader α :=
  throw (.mismatch what)

/-- The next character, which stays. -/
def peek? : Reader (Option Char) := do
  return (← get).head?

/-- Pass over one character. -/
def advance : Reader Unit :=
  modify List.tail

/-- The next character that is no blank, which stays. -/
def next? : Reader (Option Char) := do
  modify fun text => text.dropWhile isBlank
  peek?

/-- The next character that is no blank, where the text must go on. -/
def next : Reader Char := do
  match ← next? with
  | some c => return c
  | none => throw .ended

/-- The characters of a word. -/
def word : List Char → Reader Unit
  | [] => return ()
  | c :: rest => do
      match ← peek? with
      | none => throw .ended
      | some found =>
          if found = c then
            advance
            word rest
          else throw .malformed

/-- The digits that come next, possibly none. -/
def digits : Reader (List Char) := do
  let text ← get
  set (text.dropWhile Char.isDigit)
  return text.takeWhile Char.isDigit

/-! ## Lists and objects -/

/-- Whether a list goes on, from behind its bracket (`first`) or behind an item.  If it does, the
comma is passed over. -/
def moreItems (first : Bool) : Reader Bool := do
  match ← next with
  | ']' => return false
  | c =>
      if first then return true
      else if c = ',' then
        advance
        if (← next) = ']' then throw .malformed else return true
      else throw .malformed

/-- The bracket at the end of a list. -/
def closeList : Reader Unit := do
  if (← next) = ']' then advance else throw .malformed

/-- Whether an object goes on, from behind its brace (`first`) or behind a member.  If it does,
the comma is passed over and a quote comes next. -/
def moreMembers (first : Bool) : Reader Bool := do
  match ← next with
  | '\x7d' => return false
  | c =>
      if first then
        if c = '"' then return true else throw .malformed
      else if c = ',' then
        advance
        if (← next) = '"' then return true else throw .malformed
      else throw .malformed

/-- The brace at the end of an object. -/
def closeObject : Reader Unit := do
  if (← next) = '\x7d' then advance else throw .malformed

/-- The colon behind the label of a member. -/
def colon : Reader Unit := do
  if (← next) = ':' then advance else throw .malformed

/-- The value of a whole text, with nothing but blanks behind it. -/
def document {α : Type} (value : Reader α) (text : String) : Except Error α := do
  let (a, rest) ← value.run text.toList
  if (rest.dropWhile isBlank).isEmpty then return a else throw .malformed

end Reader

end Json

end TokenAgent
