import TokenAgent.Json.Reader

/-!
# Numbers of JSON

* `Numeral` — a number as it is written;
* `Numeral.value?` — what it stands for: an integer if it is written as one and fits 64 bits,
  otherwise a double, if it is finite;
* `Reader.number` — a number that is wanted, `Reader.skipNumber` — one that is passed over.

A numeral that is passed over has no value, so its size does not matter.
-/

namespace TokenAgent

namespace Json

/-- A number as it is written. -/
structure Numeral where
  negative : Bool
  whole : List Char
  fraction : Option (List Char)
  /-- Sign and digits of the exponent. -/
  exponent : Option (Bool × List Char)
  deriving DecidableEq, Repr

/-- What a numeral stands for. -/
inductive Number where
  /-- An integer below `2 ^ 64`. -/
  | natural (n : Nat)
  /-- The integer `-n`, where `0 < n ≤ 2 ^ 63`. -/
  | negative (n : Nat)
  | real (negative : Bool) (magnitude : Binary64)
  deriving DecidableEq, Repr

def Number.found : Number → Found
  | natural n => .integer n
  | negative n => .integer (-n)
  | real sign magnitude => .real sign magnitude

namespace Numeral

def digitValue (c : Char) : Nat := c.toNat - '0'.toNat

/-- The bound of a significand, `2 ^ 64`. -/
def significandBound : Nat := 0x10000000000000000

/-- The largest magnitude of a negative integer, `2 ^ 63`. -/
def negativeLimit : Nat := 0x8000000000000000

/-- Take in digits for as long as the significand stays in bounds.  The second part counts the
digits left out. -/
def significand (start : Nat) : List Char → Nat × Nat
  | [] => (start, 0)
  | c :: rest =>
      let longer := 10 * start + digitValue c
      if longer < significandBound then significand longer rest else (start, rest.length + 1)

/-- The power of ten that an exponent stands for. -/
def power : Option (Bool × List Char) → Int
  | none => 0
  | some (negative, digits) =>
      let e := digits.foldl (fun n c => 10 * n + digitValue c) 0
      if negative then -(e : Int) else e

/-- The value of a numeral.  Digits of the whole part that do not fit the significand still
count as places, later ones do not count at all. -/
def value? (n : Numeral) : Option Number :=
  let (whole, dropped) := significand 0 n.whole
  if n.fraction.isNone && n.exponent.isNone && dropped = 0 then
    if !n.negative then some (.natural whole)
    else if 0 < whole ∧ whole ≤ negativeLimit then some (.negative whole)
    else (Binary64.ofRatio? whole 1).map (.real true)
  else
    let fraction := n.fraction.getD []
    let (all, left) := significand whole fraction
    let places := (dropped : Int) - (fraction.length - left : Nat)
    (Binary64.ofDecimal? all (places + power n.exponent)).map (.real n.negative)

end Numeral

namespace Reader

/-- Digits where there must be some; `atEnd` is the fault of a text that ends instead. -/
def someDigits (atEnd : Error) : Reader (List Char) := do
  let found ← digits
  if found.isEmpty then
    if (← peek?).isNone then throw atEnd else throw .malformed
  else return found

/-- The whole part of a numeral, which has no leading zeros. -/
def wholePart (atEnd : Error) : Reader (List Char) := do
  let found ← someDigits atEnd
  if found.head? = some '0' && 1 < found.length then throw .malformed
  else return found

/-- The point and the digits behind it, if there is a point. -/
def fractionPart (atEnd : Error) : Reader (Option (List Char)) := do
  if (← peek?) = some '.' then
    advance
    return some (← someDigits atEnd)
  else return none

/-- The exponent, if there is one. -/
def exponentPart (atEnd : Error) : Reader (Option (Bool × List Char)) := do
  let mark ← peek?
  if mark = some 'e' || mark = some 'E' then
    advance
    let sign ← peek?
    if sign = some '+' || sign = some '-' then advance
    return some (sign = some '-', ← someDigits atEnd)
  else return none

/-- A numeral; `atEnd` is the fault of one that ends too early. -/
def numeral (atEnd : Error) : Reader Numeral := do
  let negative := (← peek?) = some '-'
  if negative then advance
  let whole ← wholePart atEnd
  let fraction ← fractionPart atEnd
  return ⟨negative, whole, fraction, ← exponentPart atEnd⟩

/-- A number.  One beyond the doubles is malformed. -/
def number : Reader Number := do
  match (← numeral .ended).value? with
  | some n => return n
  | none => throw .malformed

/-- Pass over a number.  One that ends too early is malformed. -/
def skipNumber : Reader Unit := do
  let _ ← numeral .malformed

end Reader

end Json

end TokenAgent
