/-!
# Ranges of code points
-/

namespace TokenAgent

namespace Text

/-- The number `n` lies in one of the ranges, ends included. -/
def inRanges (ranges : List (Nat × Nat)) (n : Nat) : Bool :=
  ranges.any fun r => r.1 ≤ n && n ≤ r.2

end Text

end TokenAgent
