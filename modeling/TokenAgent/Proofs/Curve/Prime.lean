import Mathlib.NumberTheory.LucasPrimality
import Mathlib.Tactic.NormNum.Prime
import Mathlib.Tactic.ReduceModChar
import TokenAgent.Curve.P256

/-!
# The field prime is prime

A number `n` is prime if the powers of some number modulo `n` take exactly `n - 1` steps to come
back to one, and this is told by the prime factors of `n - 1` (`P256.prime_of_factors`).  Large
factors are shown to be prime in the same way, down to those that trial division can settle.
-/

namespace TokenAgent

namespace P256

/-- Lucas's test, with the prime factors of `n - 1` given as a list. -/
theorem prime_of_factors {n : ℕ} (base : ZMod n) (factors : List ℕ)
    (hproduct : factors.prod = n - 1) (hfactors : ∀ q ∈ factors, q.Prime)
    (hfull : base ^ (n - 1) = 1) (hpart : ∀ q ∈ factors, base ^ ((n - 1) / q) ≠ 1) :
    n.Prime := by
  refine lucas_primality n base hfull ?_
  intro q hq hdvd
  rw [← hproduct] at hdvd
  rcases hq.prime.dvd_prod_iff.1 hdvd with ⟨factor, hmem, hdiv⟩
  have hsame : q = factor := (Nat.prime_dvd_prime_iff_eq hq (hfactors factor hmem)).1 hdiv
  rw [hsame]
  exact hpart factor hmem

/-! ## The large factors -/

theorem prime_factor35 : Nat.Prime 34282281433 := by
  apply prime_of_factors 17 [2, 2, 2, 3, 7, 204061199]
  · norm_num
  · simp only [List.forall_mem_cons]
    norm_num
  · reduce_mod_char
  · simp only [List.forall_mem_cons]
    norm_num
    reduce_mod_char
    decide

theorem prime_factor36 : Nat.Prime 66417393611 := by
  apply prime_of_factors 6 [2, 5, 53, 173, 197, 3677]
  · norm_num
  · simp only [List.forall_mem_cons]
    norm_num
  · reduce_mod_char
  · simp only [List.forall_mem_cons]
    norm_num
    reduce_mod_char
    decide

theorem prime_factor44 : Nat.Prime 11290956913871 := by
  apply prime_of_factors 13 [2, 5, 17, 66417393611]
  · norm_num
  · simp only [List.forall_mem_cons, prime_factor36]
    norm_num
  · reduce_mod_char
  · simp only [List.forall_mem_cons]
    norm_num
    reduce_mod_char
    decide

theorem prime_factor56 : Nat.Prime 46076956964474543 := by
  apply prime_of_factors 5 [2, 23, 18169, 78283, 704251]
  · norm_num
  · simp only [List.forall_mem_cons]
    norm_num
  · reduce_mod_char
  · simp only [List.forall_mem_cons]
    norm_num
    reduce_mod_char
    decide

theorem prime_factor150 : Nat.Prime 774023187263532362759620327192479577272145303 := by
  apply prime_of_factors 3 [2, 3, 3, 2411, 34282281433, 11290956913871, 46076956964474543]
  · norm_num
  · simp only [List.forall_mem_cons, prime_factor35, prime_factor44, prime_factor56]
    norm_num
  · reduce_mod_char
  · simp only [List.forall_mem_cons]
    norm_num
    reduce_mod_char
    decide

theorem prime_factor160 : Nat.Prime 835945042244614951780389953367877943453916927241 := by
  apply prime_of_factors 11 [2, 2, 2, 3, 3, 3, 5, 774023187263532362759620327192479577272145303]
  · norm_num
  · simp only [List.forall_mem_cons, prime_factor150]
    norm_num
  · reduce_mod_char
  · simp only [List.forall_mem_cons]
    norm_num
    reduce_mod_char
    decide

/-! ## The prime -/

theorem prime_p : Nat.Prime p := by
  rw [p]
  apply prime_of_factors 6 [2, 3, 5, 5, 17, 257, 641, 1531, 65537, 490463, 6700417,
    835945042244614951780389953367877943453916927241]
  · norm_num
  · simp only [List.forall_mem_cons, prime_factor160]
    norm_num
  · reduce_mod_char
  · simp only [List.forall_mem_cons]
    norm_num
    reduce_mod_char
    decide

instance : Fact (Nat.Prime p) := ⟨prime_p⟩

end P256

end TokenAgent
