import TokenAgent.Identity.Basic
import TokenAgent.Text.Alphanumeric

/-!
# Locators

Reading `[protocol://][user@]host[:port][/path]`.

* A protocol is a word before the first `://`; if what stands there is no word, there is no
  protocol and the text is taken as it is.
* A user ends at the first `@`, unless a `/` comes before it.
* A host ends at the first `:` or `/` and is not empty.
* A port is a number below 65536; zero stands for none.
-/

namespace TokenAgent

namespace Locator

/-- The characters of a protocol. -/
def isWordChar (c : Char) : Bool :=
  Text.isAlphanumeric c || c == '_'

/-- What stands before and after the first `://`. -/
def cutScheme : List Char → Option (List Char × List Char)
  | [] => none
  | ':' :: '/' :: '/' :: rest => some ([], rest)
  | c :: rest => (cutScheme rest).map fun parts => (c :: parts.1, parts.2)

/-- The protocol, possibly empty, and what follows it. -/
def splitProtocol (s : List Char) : List Char × List Char :=
  match cutScheme s with
  | some (word, rest) => if !word.isEmpty && word.all isWordChar then (word, rest) else ([], s)
  | none => ([], s)

/-- The user, possibly empty, and what follows it. -/
def splitUser (s : List Char) : List Char × List Char :=
  if (s.takeWhile (· ≠ '/')).contains '@' then
    (s.takeWhile (· ≠ '@'), (s.dropWhile (· ≠ '@')).drop 1)
  else ([], s)

/-- A character of the host. -/
def isHostChar (c : Char) : Bool :=
  c != ':' && c != '/'

/-- The number that decimal digits spell. -/
def decimalValue (digits : List Char) : Nat :=
  digits.foldl (fun n c => 10 * n + (c.toNat - '0'.toNat)) 0

/-- The port, if there is one, and what follows it; nothing if the port is malformed. -/
def splitPort? : List Char → Option (Option UInt16 × List Char)
  | ':' :: rest =>
      let digits := rest.takeWhile (· ≠ '/')
      let value := decimalValue digits
      if !digits.isEmpty && digits.all Char.isDigit && value ≤ 65535 then
        some (if value = 0 then none else some (UInt16.ofNat value), rest.dropWhile (· ≠ '/'))
      else none
  | rest => some (none, rest)

/-- The path after its slash. -/
def pathOf : List Char → List Char
  | '/' :: path => path
  | _ => []

/-- The identity that a locator names. -/
def parse (s : String) : Except IdentityError Identity :=
  let (protocol, rest) := splitProtocol s.toList
  let (user, rest) := splitUser rest
  let host := rest.takeWhile isHostChar
  if host.isEmpty then .error (.missingHost s)
  else
    match splitPort? (rest.dropWhile isHostChar) with
    | none => .error (.invalidPort s)
    | some (port, rest) =>
        .ok { Identity.ofHost (String.ofList host) with
          protocol := String.ofList protocol
          user := String.ofList user
          port := port
          path := String.ofList (pathOf rest) }

end Locator

end TokenAgent
