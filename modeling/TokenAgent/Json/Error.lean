import TokenAgent.Decimal.Shortest
import TokenAgent.Text.Quoted

/-!
# Faults of JSON texts

A text is read from left to right and the first fault counts.  It is one of three: the text
ended too early, the text is malformed, or a well-formed value is not of the wanted shape.
-/

namespace TokenAgent

namespace Json

/-- What a value turned out to be. -/
inductive Found where
  | null
  | boolean (value : Bool)
  | integer (value : Int)
  | real (negative : Bool) (magnitude : Binary64)
  | text (value : String)
  | list
  | object
  deriving DecidableEq, Repr

def Found.describe : Found → String
  | null => "null"
  | boolean value => s!"boolean `{value}`"
  | integer value => s!"integer `{value}`"
  | real negative magnitude => s!"floating point `{Shortest.text negative magnitude}`"
  | text value => "string " ++ Quoted.encode value
  | list => "sequence"
  | object => "map"

/-- A value of the wrong shape. -/
inductive Mismatch where
  | invalidType (found : Found) (wanted : String)
  | invalidValue (found : Found) (wanted : String)
  | invalidLength (length : Nat) (wanted : String)
  | missingField (label : String)
  | duplicateField (label : String)
  | unknownVariant (name wanted : String)
  deriving DecidableEq, Repr

def Mismatch.describe : Mismatch → String
  | invalidType found wanted => s!"invalid type: {found.describe}, expected {wanted}"
  | invalidValue found wanted => s!"invalid value: {found.describe}, expected {wanted}"
  | invalidLength length wanted => s!"invalid length {length}, expected {wanted}"
  | missingField label => s!"missing field `{label}`"
  | duplicateField label => s!"duplicate field `{label}`"
  | unknownVariant name wanted => s!"unknown variant `{name}`, expected `{wanted}`"

/-- The first fault of a text. -/
inductive Error where
  /-- The text ended too early. -/
  | ended
  /-- The text is not well-formed, or holds more than one value. -/
  | malformed
  /-- A value is not of the wanted shape. -/
  | mismatch (what : Mismatch)
  deriving DecidableEq, Repr

def Error.message : Error → String
  | ended => "JSON error: unexpected end of text"
  | malformed => "JSON error: malformed text"
  | mismatch what => "JSON error: " ++ what.describe

end Json

end TokenAgent
