import TokenAgent.Decimal.Binary64

/-!
# Shortest decimals

A double is written with the fewest digits that read back as it, and of those with the digits
nearest to it.

* `Shortest.decimal` — digits and decimal exponent of a positive double;
* `Shortest.text` — its text: positional from `1e-5` up to `1e16`, otherwise with an exponent.
-/

namespace TokenAgent

namespace Shortest

/-- The number of decimal digits of `n`. -/
def digitCount (n : Nat) : Nat :=
  (Nat.toDigits 10 n).length

/-- The place of the leading digit of `num / den`: `10 ^ e ≤ num / den < 10 ^ (e + 1)`. -/
def leadingPlace (num den : Nat) : Int :=
  if den ≤ num then (digitCount (num / den) : Int) - 1
  else -(digitCount ((den - 1) / num) : Int)

/-- The numbers that read back as a double lie around `value`, between `low` and `high`, all over
the denominator `den`; the ends belong to them if `closed`. -/
structure Neighbourhood where
  low : Nat
  value : Nat
  high : Nat
  den : Nat
  closed : Bool
  deriving Repr

namespace Neighbourhood

/-- The neighbourhood of a double.  The gap below a power of two is half the gap above it. -/
def of (x : Binary64) : Neighbourhood :=
  let quarter := 1 <<< x.exponent
  let value := 4 * x.units
  let below := if x.mantissa = Binary64.normalMantissa ∧ 0 < x.exponent then quarter else 2 * quarter
  ⟨value - below, value, value + 2 * quarter, 4 * Binary64.unitsInOne, x.mantissa % 2 = 0⟩

/-- The number `num / den` reads back as the double. -/
def contains (n : Neighbourhood) (num : Nat) : Bool :=
  if n.closed then n.low ≤ num && num ≤ n.high else n.low < num && num < n.high

/-- The neighbourhood scaled by a power of ten. -/
def scale (n : Neighbourhood) (up down : Nat) : Neighbourhood :=
  ⟨n.low * up, n.value * up, n.high * up, n.den * down, n.closed⟩

/-- The multiple of `den` that reads back as the double, the one nearer to it if two do, and
the even one of two equally near. -/
def nearest? (n : Neighbourhood) : Option Nat :=
  let floor := n.value / n.den
  let below := n.value - floor * n.den
  let above := (floor + 1) * n.den - n.value
  match n.contains (floor * n.den), n.contains ((floor + 1) * n.den) with
  | true, true =>
      some (if below < above ∨ (below = above ∧ floor % 2 = 0) then floor else floor + 1)
  | true, false => some floor
  | false, true => some (floor + 1)
  | false, false => none

end Neighbourhood

/-- Try `n` digits, then one more, as far as `left` allows.  The result is a number and the
place of its last digit. -/
def search (hood : Neighbourhood) (leading : Int) : (left n : Nat) → Option (Nat × Int)
  | 0, _ => none
  | left + 1, n =>
      let last := leading - (n : Int) + 1
      let up := if last < 0 then Nat.pow 10 last.natAbs else 1
      let down := if last < 0 then 1 else Nat.pow 10 last.natAbs
      match (hood.scale up down).nearest? with
      | some number => some (number, last)
      | none => search hood leading left (n + 1)

/-- Digits without trailing zeros, and the place of the first one. -/
def decimal (x : Binary64) : List Char × Int :=
  let hood := Neighbourhood.of x
  let (number, last) := (search hood (leadingPlace hood.value hood.den) 17 1).getD (0, 0)
  let digits := Nat.toDigits 10 number
  ((digits.reverse.dropWhile (· = '0')).reverse, last + digits.length - 1)

/-- Digits `d₀.d₁d₂… * 10 ^ place` without an exponent, a point and a digit behind it included. -/
def positional (digits : List Char) (place : Int) : List Char :=
  if place < 0 then
    '0' :: '.' :: List.replicate (place.natAbs - 1) '0' ++ digits
  else
    let whole := place.natAbs + 1
    let fraction := digits.drop whole
    digits.take whole ++ List.replicate (whole - digits.length) '0'
      ++ '.' :: (if fraction.isEmpty then ['0'] else fraction)

/-- Digits `d₀.d₁d₂… * 10 ^ place` with an exponent, which always has a sign. -/
def scientific (digits : List Char) (place : Int) : List Char :=
  let mark := 'e' :: (if place < 0 then '-' else '+') :: (toString place.natAbs).toList
  match digits with
  | [] => mark
  | [d] => d :: mark
  | d :: rest => d :: '.' :: rest ++ mark

/-- The text of a double and its sign. -/
def text (negative : Bool) (x : Binary64) : String :=
  let sign := if negative then "-" else ""
  if x = Binary64.zero then sign ++ "0.0"
  else
    let (digits, place) := decimal x
    sign ++ String.ofList
      (if -5 ≤ place ∧ place ≤ 15 then positional digits place else scientific digits place)

end Shortest

end TokenAgent
