/-!
# The curve P-256

Affine points of `y² = x³ - 3x + b` over the prime field of 256 bits, and the recovery of `y`
from `x` and a parity.  As the field prime leaves 3 on division by 4, a square has the root
`a ^ ((p + 1) / 4)`.
-/

namespace TokenAgent

namespace P256

/-- The field prime. -/
def p : Nat := 0xffffffff00000001000000000000000000000000ffffffffffffffffffffffff

/-- The constant term of the curve equation. -/
def b : Nat := 0x5ac635d8aa3a93e7b3ebbd55769886bc651d06b0cc53b0f63bce3c3e27d2604b

/-- The right-hand side `x³ - 3x + b` of the curve equation. -/
def rightSide (x : Nat) : Nat :=
  (x * x * x + (p - 3) * x + b) % p

/-- A point of the curve in reduced coordinates. -/
def OnCurve (x y : Nat) : Prop :=
  x < p ∧ y < p ∧ y * y % p = rightSide x

/-- The power `a ^ e` modulo `m`, by squaring. -/
def powMod (m a e : Nat) : Nat :=
  if e = 0 then 1 % m
  else
    let half := powMod m (a * a % m) (e / 2)
    if e % 2 = 0 then half else a * half % m
termination_by e

/-- A square root of `a` modulo `p`, if there is one. -/
def sqrt? (a : Nat) : Option Nat :=
  let root := powMod p a ((p + 1) / 4)
  if root * root % p = a % p then some root else none

/-- The `y` of the given parity above `x`, if `x` is reduced and has a point above it.  A root
of zero is its own negative and is taken for either parity. -/
def liftX? (x : Nat) (odd : Bool) : Option Nat :=
  if x < p then
    (sqrt? (rightSide x)).map fun root =>
      if root % 2 = (if odd then 1 else 0) then root else (p - root) % p
  else none

end P256

end TokenAgent
