/-!
# Binary floating point of 64 bits

Non-negative finite doubles as pairs of natural numbers, and rounding to them.

* `Binary64` — `mantissa * 2 ^ exponent` in units of `2 ^ -1074`, the least positive double;
* `Binary64.ofRatio?` — the double nearest to a ratio, ties to the even mantissa, if it is finite;
* `Binary64.ofDecimal?` — the value of decimal digits with a power of ten.
-/

namespace TokenAgent

/-- The double `mantissa * 2 ^ exponent * 2 ^ -1074`, where `mantissa < 2 ^ 53`, and
`2 ^ 52 ≤ mantissa` unless `exponent = 0`. -/
structure Binary64 where
  mantissa : Nat
  exponent : Nat
  deriving DecidableEq, Repr

namespace Binary64

/-- The number of units in one. -/
def unitsInOne : Nat := 1 <<< 1074

/-- The least mantissa of a double with a leading one, `2 ^ 52`. -/
def normalMantissa : Nat := 1 <<< 52

/-- The largest exponent of a finite double. -/
def maxExponent : Nat := 2045

def zero : Binary64 := ⟨0, 0⟩

/-- The value in units of `2 ^ -1074`. -/
def units (x : Binary64) : Nat := x.mantissa <<< x.exponent

/-- The integer nearest to `num / den`, the even one of two. -/
def roundDiv (num den : Nat) : Nat :=
  let quotient := num / den
  let twice := 2 * (num % den)
  if den < twice ∨ (twice = den ∧ quotient % 2 = 1) then quotient + 1 else quotient

/-- The double nearest to `num / den`, if it is finite. -/
def ofRatio? (num den : Nat) : Option Binary64 :=
  let scaled := num * unitsInOne
  let exponent := (scaled / den).log2 - 52
  let mantissa := roundDiv scaled (den <<< exponent)
  let x : Binary64 :=
    if mantissa = 2 * normalMantissa then ⟨normalMantissa, exponent + 1⟩ else ⟨mantissa, exponent⟩
  if x.exponent ≤ maxExponent then some x else none

def mul? (x y : Binary64) : Option Binary64 :=
  ofRatio? (x.units * y.units) (unitsInOne * unitsInOne)

def div? (x y : Binary64) : Option Binary64 :=
  ofRatio? x.units y.units

/-- The largest power of ten that is a double. -/
def maxPowerOfTen : Nat := 308

/-- The double nearest to a power of ten. -/
def powerOfTen (e : Nat) : Binary64 :=
  (ofRatio? (Nat.pow 10 e) 1).getD zero

/-- Divide by `10 ^ e`, in steps of powers that are doubles. -/
def scaleDown? (x : Binary64) (e : Nat) : Option Binary64 :=
  if e ≤ maxPowerOfTen then x.div? (powerOfTen e)
  else if x = zero then some zero
  else (x.div? (powerOfTen maxPowerOfTen)).bind fun y => scaleDown? y (e - maxPowerOfTen)
termination_by e
decreasing_by simp [maxPowerOfTen]; omega

/-- The value of `significand * 10 ^ e`, if it is finite: the significand is rounded, and the
product or quotient with the rounded power of ten once more. -/
def ofDecimal? (significand : Nat) (e : Int) : Option Binary64 :=
  (ofRatio? significand 1).bind fun x =>
    if e < 0 then x.scaleDown? e.natAbs
    else if e.natAbs ≤ maxPowerOfTen then x.mul? (powerOfTen e.natAbs)
    else if x = zero then some zero
    else none

end Binary64

end TokenAgent
