import Mathlib.NumberTheory.LegendreSymbol.Basic
import Mathlib.Tactic.LinearCombination
import TokenAgent.Proofs.Curve.Prime

/-!
# Points of the curve

The curve equation in the field of `p` elements, and the recovery of `y` from `x`.

* `P256.onCurve_iff`, `P256.hasPoint_iff` — a point is a solution of the equation in the field;
* `P256.sqrt?_eq_some`, `P256.exists_sqrt?` — roots are found of squares, and of nothing else;
* `P256.liftX?_eq_some_iff` — recovery finds the one point above `x` that has the parity asked
  for, or is its own negative;
* `P256.liftX?_eq_none_iff` — recovery fails where there is no point above `x`.
-/

namespace TokenAgent

namespace P256

/-- The right-hand side of the curve equation, in the field. -/
def cubic (x : ZMod p) : ZMod p :=
  x ^ 3 - 3 * x + b

/-- Some point of the curve lies above `x`. -/
def HasPoint (x : ℕ) : Prop :=
  x < p ∧ IsSquare (cubic x)

/-! ## The equation in the field -/

theorem powMod_eq (m a e : ℕ) : powMod m a e = a ^ e % m := by
  fun_induction powMod m a e with
  | case1 a => rw [pow_zero]
  | case2 a e hne half heven ih =>
      have hexponent : e = 2 * (e / 2) := by omega
      calc
        half = (a * a % m) ^ (e / 2) % m := ih
        _ = (a ^ 2) ^ (e / 2) % m := by rw [← Nat.pow_mod, pow_two]
        _ = a ^ e % m := by rw [← pow_mul, ← hexponent]
  | case3 a e hne half hodd ih =>
      have hexponent : e = 2 * (e / 2) + 1 := by omega
      have hhalf : half = (a * a % m) ^ (e / 2) % m := ih
      calc
        a * half % m = a * ((a * a % m) ^ (e / 2) % m) % m := by rw [hhalf]
        _ = a * (a ^ 2) ^ (e / 2) % m := by rw [← Nat.pow_mod, Nat.mul_mod_mod, pow_two]
        _ = a ^ e % m := by rw [← pow_mul, ← pow_succ', ← hexponent]

theorem cast_rightSide (x : ℕ) : (rightSide x : ZMod p) = cubic x := by
  have hthree : 3 ≤ p := by decide
  rw [rightSide, ZMod.natCast_mod]
  push_cast [Nat.cast_sub hthree]
  rw [ZMod.natCast_self, cubic]
  ring

theorem rightSide_lt (x : ℕ) : rightSide x < p :=
  Nat.mod_lt _ prime_p.pos

/-- A number squares to another modulo `p` if it does so in the field. -/
theorem mul_self_mod_eq_iff (y a : ℕ) : y * y % p = a % p ↔ (y : ZMod p) ^ 2 = a := by
  rw [← ZMod.natCast_eq_natCast_iff', Nat.cast_mul, pow_two]

theorem onCurve_iff {x y : ℕ} : OnCurve x y ↔ x < p ∧ y < p ∧ (y : ZMod p) ^ 2 = cubic x := by
  rw [OnCurve, ← cast_rightSide, ← mul_self_mod_eq_iff, Nat.mod_eq_of_lt (rightSide_lt x)]

/-! ## Square roots -/

/-- As `p` leaves 3 on division by 4, this power of a square is a root of it. -/
theorem pow_sq_of_isSquare {a : ZMod p} (h : IsSquare a) : (a ^ ((p + 1) / 4)) ^ 2 = a := by
  by_cases hzero : a = 0
  · rw [hzero, zero_pow (by decide), zero_pow two_ne_zero]
  · have hexponent : (p + 1) / 4 * 2 = p / 2 + 1 := by decide
    have heuler : a ^ (p / 2) = 1 := (ZMod.euler_criterion p hzero).1 h
    rw [← pow_mul, hexponent, pow_succ, heuler, one_mul]

theorem sqrt?_eq_some {a root : ℕ} (h : sqrt? a = some root) :
    root < p ∧ (root : ZMod p) ^ 2 = a := by
  simp only [sqrt?] at h
  split at h
  · rename_i hroot
    injection h with h
    subst h
    refine ⟨?_, (mul_self_mod_eq_iff _ a).1 hroot⟩
    rw [powMod_eq]
    exact Nat.mod_lt _ prime_p.pos
  · cases h

theorem exists_sqrt? {a : ℕ} (h : IsSquare (a : ZMod p)) : ∃ root, sqrt? a = some root := by
  refine ⟨powMod p a ((p + 1) / 4), if_pos ?_⟩
  rw [mul_self_mod_eq_iff, powMod_eq, ZMod.natCast_mod, Nat.cast_pow]
  exact pow_sq_of_isSquare h

/-! ## Recovery of a point -/

theorem odd_p : p % 2 = 1 := by
  decide

/-- Above each `x` there is one point at most that has a given parity or is its own negative. -/
theorem onCurve_unique {x y y' parity : ℕ} (h : OnCurve x y) (h' : OnCurve x y')
    (hparity : y % 2 = parity ∨ y = 0) (hparity' : y' % 2 = parity ∨ y' = 0) : y = y' := by
  rcases onCurve_iff.1 h with ⟨_, hy, hsquare⟩
  rcases onCurve_iff.1 h' with ⟨_, hy', hsquare'⟩
  rcases sq_eq_sq_iff_eq_or_eq_neg.1 (hsquare.trans hsquare'.symm) with hsame | hnegative
  · have hmod := (ZMod.natCast_eq_natCast_iff' y y' p).1 hsame
    rwa [Nat.mod_eq_of_lt hy, Nat.mod_eq_of_lt hy'] at hmod
  · -- The two add up to nothing or to `p`, which is odd.
    have hsum : ((y + y' : ℕ) : ZMod p) = 0 := by
      rw [Nat.cast_add, hnegative, neg_add_cancel]
    rcases (ZMod.natCast_eq_zero_iff _ _).1 hsum with ⟨k, hk⟩
    have hodd := odd_p
    have hk' : k = 0 ∨ k = 1 := by
      by_contra hmore
      have htwo : 2 ≤ k := by omega
      have hlarge : p * 2 ≤ p * k := Nat.mul_le_mul_left p htwo
      omega
    rcases hk' with rfl | rfl
    · omega
    · omega

/-- The root of the parity asked for, or its negative. -/
theorem onCurve_choose {x root : ℕ} (odd : Bool) (h : OnCurve x root) :
    let y := if root % 2 = (if odd then 1 else 0) then root else (p - root) % p
    OnCurve x y ∧ (y % 2 = odd.toNat ∨ y = 0) := by
  have hodd := odd_p
  rcases onCurve_iff.1 h with ⟨hx, hroot, hsquare⟩
  have htoNat : (if odd then 1 else 0) = odd.toNat := by
    cases odd with
    | false => rfl
    | true => rfl
  rw [htoNat]
  intro y
  by_cases hparity : root % 2 = odd.toNat
  · have hy : y = root := if_pos hparity
    rw [hy]
    exact ⟨h, Or.inl hparity⟩
  · have hy : y = (p - root) % p := if_neg hparity
    have hnegative : (y : ZMod p) = -root := by
      rw [hy, ZMod.natCast_mod, Nat.cast_sub hroot.le, ZMod.natCast_self, zero_sub]
    refine ⟨onCurve_iff.2 ⟨hx, ?_, ?_⟩, ?_⟩
    · rw [hy]
      exact Nat.mod_lt _ prime_p.pos
    · rw [hnegative, neg_sq]
      exact hsquare
    · by_cases hzero : root = 0
      · right
        rw [hy, hzero, Nat.sub_zero, Nat.mod_self]
      · left
        have hbit := odd.toNat_lt
        rw [hy, Nat.mod_eq_of_lt (Nat.sub_lt prime_p.pos (Nat.pos_of_ne_zero hzero))]
        omega

theorem hasPoint_iff {x : ℕ} : HasPoint x ↔ ∃ y, OnCurve x y := by
  constructor
  · rintro ⟨hx, hsquare⟩
    rw [← cast_rightSide] at hsquare
    rcases exists_sqrt? hsquare with ⟨root, hroot⟩
    rcases sqrt?_eq_some hroot with ⟨hlt, hroot⟩
    rw [cast_rightSide] at hroot
    exact ⟨root, onCurve_iff.2 ⟨hx, hlt, hroot⟩⟩
  · rintro ⟨y, hcurve⟩
    rcases onCurve_iff.1 hcurve with ⟨hx, _, hsquare⟩
    refine ⟨hx, ?_⟩
    rw [← hsquare]
    exact IsSquare.sq _

theorem exists_liftX? {x : ℕ} (h : HasPoint x) (odd : Bool) : ∃ y, liftX? x odd = some y := by
  rcases h with ⟨hx, hsquare⟩
  rw [← cast_rightSide] at hsquare
  rcases exists_sqrt? hsquare with ⟨root, hroot⟩
  rw [liftX?, if_pos hx, hroot]
  exact ⟨_, rfl⟩

theorem liftX?_eq_some_iff {x y : ℕ} {odd : Bool} :
    liftX? x odd = some y ↔ OnCurve x y ∧ (y % 2 = odd.toNat ∨ y = 0) := by
  -- Whatever recovery finds is such a point.
  have hsound : ∀ {y}, liftX? x odd = some y → OnCurve x y ∧ (y % 2 = odd.toNat ∨ y = 0) := by
    intro y h
    rw [liftX?] at h
    split at h
    · rename_i hx
      rcases Option.map_eq_some_iff.1 h with ⟨root, hroot, rfl⟩
      rcases sqrt?_eq_some hroot with ⟨hlt, hsquare⟩
      rw [cast_rightSide] at hsquare
      exact onCurve_choose odd (onCurve_iff.2 ⟨hx, hlt, hsquare⟩)
    · cases h
  refine ⟨hsound, ?_⟩
  rintro ⟨hcurve, hparity⟩
  -- Conversely it finds some point, and there is no other.
  rcases exists_liftX? (hasPoint_iff.2 ⟨y, hcurve⟩) odd with ⟨y', hfound⟩
  rcases hsound hfound with ⟨hcurve', hparity'⟩
  rw [hfound, onCurve_unique hcurve hcurve' hparity hparity']

theorem liftX?_eq_none_iff {x : ℕ} {odd : Bool} : liftX? x odd = none ↔ ¬ HasPoint x := by
  constructor
  · intro hnone hpoint
    rcases exists_liftX? hpoint odd with ⟨y, hfound⟩
    rw [hnone] at hfound
    cases hfound
  · intro hpoint
    rw [Option.eq_none_iff_forall_ne_some]
    intro y hfound
    exact hpoint (hasPoint_iff.2 ⟨y, (liftX?_eq_some_iff.1 hfound).1⟩)

end P256

end TokenAgent
