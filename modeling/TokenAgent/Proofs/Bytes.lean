import Mathlib.Algebra.Order.Floor.Div
import Mathlib.Data.List.Induction
import TokenAgent.Bytes

/-!
# Laws of bytes and blocks

Writing a number in a fixed width and reading it back are inverse to each other, in both
directions, as long as the number fits the width.  Cutting into blocks leaves every block but
the last full.

* `ofBigEndian_bigEndian`, `bigEndian_ofBigEndian` — the two directions;
* `exists_front`, `exists_word` — a buffer that is long enough begins with a block, or a word;
* `chunks_of_ne_nil`, `length_chunks`, `getElem?_chunks`, `take_drop_block` — the blocks of a
  buffer.
-/

namespace TokenAgent

namespace Bytes

/-! ## Byte order -/

theorem ofBigEndian_concat (bs : Bytes) (b : UInt8) :
    ofBigEndian (bs ++ [b]) = 256 * ofBigEndian bs + b.toNat := by
  simp [ofBigEndian, List.foldl_append]

/-- A number that fits the width is read back. -/
theorem ofBigEndian_bigEndian {width n : Nat} (h : n < 256 ^ width) :
    ofBigEndian (bigEndian width n) = n := by
  induction width generalizing n with
  | zero =>
      have hn : n = 0 := by
        simpa using h
      subst hn
      rfl
  | succ width ih =>
      have hdiv : n / 256 < 256 ^ width := by
        rw [Nat.pow_succ] at h
        exact (Nat.div_lt_iff_lt_mul (by decide)).2 h
      rw [bigEndian, ofBigEndian_concat, ih hdiv, UInt8.toNat_ofNat']
      omega

/-- Bytes are the big-endian form of the number that they spell. -/
theorem bigEndian_ofBigEndian (bs : Bytes) : bigEndian bs.length (ofBigEndian bs) = bs := by
  -- A byte at the end is the lowest digit, so the induction is on the last byte.
  induction bs using List.reverseRecOn with
  | nil => rfl
  | append_singleton bs b ih =>
      have hb : b.toNat < 256 := b.toNat_lt
      have hdiv : (256 * ofBigEndian bs + b.toNat) / 256 = ofBigEndian bs := by
        omega
      have hlast : UInt8.ofNat (256 * ofBigEndian bs + b.toNat) = b := by
        apply UInt8.toNat_inj.1
        rw [UInt8.toNat_ofNat']
        omega
      rw [List.length_append, List.length_singleton, ofBigEndian_concat, bigEndian, hdiv, hlast, ih]

theorem ofBigEndian_lt (bs : Bytes) : ofBigEndian bs < 256 ^ bs.length := by
  induction bs using List.reverseRecOn with
  | nil => decide
  | append_singleton bs b ih =>
      have hb : b.toNat < 256 := b.toNat_lt
      rw [ofBigEndian_concat, List.length_append, List.length_singleton, Nat.pow_succ]
      omega

/-- Bytes for which there is no room are lost. -/
theorem bigEndian_mod (width n : Nat) : bigEndian width (n % 256 ^ width) = bigEndian width n := by
  induction width generalizing n with
  | zero => rfl
  | succ width ih =>
      have hdiv : n % 256 ^ (width + 1) / 256 = n / 256 % 256 ^ width := by
        rw [Nat.pow_succ, Nat.mod_mul_left_div_self]
      have hlast : UInt8.ofNat (n % 256 ^ (width + 1)) = UInt8.ofNat n := by
        apply UInt8.toNat_inj.1
        rw [UInt8.toNat_ofNat', UInt8.toNat_ofNat', Nat.pow_succ]
        exact Nat.mod_mod_of_dvd n (Nat.dvd_mul_left 256 _)
      rw [bigEndian, bigEndian, hdiv, hlast, ih]

theorem exists_front {n : Nat} {bs : Bytes} (h : n ≤ bs.length) :
    ∃ front rest : Bytes, front.length = n ∧ bs = front ++ rest := by
  refine ⟨bs.take n, bs.drop n, ?_, ?_⟩
  · simp [h]
  · exact (List.take_append_drop n bs).symm

/-- The bytes at the front of a buffer are the written form of a number. -/
theorem exists_bigEndian {n : Nat} {bs : Bytes} (h : n ≤ bs.length) :
    ∃ (value : Nat) (rest : Bytes), value < 256 ^ n ∧ bs = bigEndian n value ++ rest := by
  rcases exists_front h with ⟨front, rest, rfl, rfl⟩
  refine ⟨ofBigEndian front, rest, ofBigEndian_lt front, ?_⟩
  rw [bigEndian_ofBigEndian]

/-- Two bytes at the front of a buffer are one word. -/
theorem exists_word {bs : Bytes} (h : 2 ≤ bs.length) :
    ∃ (word : UInt16) (rest : Bytes), bs = bigEndian 2 word.toNat ++ rest := by
  rcases exists_bigEndian h with ⟨value, rest, hvalue, rfl⟩
  refine ⟨UInt16.ofNat value, rest, ?_⟩
  rw [UInt16.toNat_ofNat_of_lt' hvalue]

/-! ## Blocks -/

section Chunks

variable {α : Type} {n : Nat} {xs : List α}

theorem chunks_of_ne_nil (hn : 0 < n) (h : xs ≠ []) :
    chunks n xs = xs.take n :: chunks n (xs.drop n) := by
  cases xs with
  | nil => exact absurd rfl h
  | cons a rest =>
      cases n with
      | zero => exact absurd hn (Nat.lt_irrefl 0)
      | succ n =>
          rw [chunks_cons]
          rfl

/-- A size of zero counts as one here too. -/
theorem head?_chunks (n : Nat) (xs : List α) :
    (chunks n xs).head?.getD [] = xs.take (max n 1) := by
  cases xs with
  | nil => simp
  | cons a rest =>
      have hsize : max n 1 = n - 1 + 1 := by omega
      rw [chunks_cons, hsize, List.take_succ_cons]
      rfl

/-- As many blocks as it takes, the last one rounded up. -/
theorem length_chunks (hn : 0 < n) : (chunks n xs).length = (xs.length + (n - 1)) / n := by
  fun_induction chunks n xs with
  | case1 =>
      symm
      apply Nat.div_eq_of_lt
      simp only [List.length_nil]
      omega
  | case2 a rest ih =>
      have hround : (rest.length - (n - 1) + (n - 1)) / n = rest.length / n := by
        rcases Nat.le_total (n - 1) rest.length with hle | hle
        · rw [Nat.sub_add_cancel hle]
        · -- A single block is left, so both counts are zero.
          rw [Nat.sub_eq_zero_of_le hle, Nat.div_eq_of_lt (by omega), Nat.div_eq_of_lt (by omega)]
      have hsum : rest.length + 1 + (n - 1) = rest.length + n := by
        omega
      rw [List.length_cons, ih, List.length_drop, hround, List.length_cons, hsum,
        Nat.add_div_right _ hn]

theorem length_chunks_ceilDiv (hn : 0 < n) : (chunks n xs).length = xs.length ⌈/⌉ n := by
  rw [length_chunks hn, Nat.ceilDiv_eq_add_pred_div, Nat.add_sub_assoc hn]

/-- A size of zero counts as one. -/
theorem length_le_max_of_mem_chunks {block : List α} (h : block ∈ chunks n xs) :
    block.length ≤ max n 1 := by
  fun_induction chunks n xs with
  | case1 => cases h
  | case2 a rest ih =>
      rcases List.mem_cons.1 h with rfl | hlater
      · rw [List.length_cons, List.length_take]
        omega
      · exact ih hlater

theorem length_le_of_mem_chunks (hn : 0 < n) {block : List α} (h : block ∈ chunks n xs) :
    block.length ≤ n := by
  simpa [Nat.max_eq_left (Nat.succ_le_of_lt hn)] using length_le_max_of_mem_chunks h

theorem ne_nil_of_mem_chunks {block : List α} (h : block ∈ chunks n xs) : block ≠ [] := by
  fun_induction chunks n xs with
  | case1 => cases h
  | case2 a rest ih =>
      rcases List.mem_cons.1 h with rfl | hlater
      · exact List.cons_ne_nil a _
      · exact ih hlater

/-- Block number `k` begins behind the `k` blocks before it. -/
theorem getElem?_chunks (hn : 0 < n) {k : Nat} (h : n * k < xs.length) :
    (chunks n xs)[k]? = some ((xs.drop (n * k)).take n) := by
  induction k generalizing xs with
  | zero =>
      have hne : xs ≠ [] := List.ne_nil_of_length_pos (Nat.lt_of_le_of_lt (Nat.zero_le _) h)
      rw [chunks_of_ne_nil hn hne]
      rfl
  | succ k ih =>
      rw [Nat.mul_succ] at h
      have hne : xs ≠ [] := List.ne_nil_of_length_pos (Nat.lt_of_le_of_lt (Nat.zero_le _) h)
      have hrest : n * k < (xs.drop n).length := by
        rw [List.length_drop]
        omega
      rw [chunks_of_ne_nil hn hne, List.getElem?_cons_succ, ih hrest, List.drop_drop,
        Nat.add_comm, Nat.mul_succ]

/-- Where the size of a block divides the size of the buffer, every block is full. -/
theorem length_of_mem_chunks_of_dvd (hn : 0 < n) (hdvd : n ∣ xs.length) {block : List α}
    (h : block ∈ chunks n xs) : block.length = n := by
  fun_induction chunks n xs with
  | case1 => cases h
  | case2 a rest ih =>
      rw [List.length_cons] at hdvd
      have hle : n ≤ rest.length + 1 := Nat.le_of_dvd (Nat.succ_pos rest.length) hdvd
      rcases List.mem_cons.1 h with rfl | hlater
      · rw [List.length_cons, List.length_take]
        omega
      · have hrest : (rest.drop (n - 1)).length = rest.length + 1 - n := by
          rw [List.length_drop]
          omega
        rw [hrest] at ih
        exact ih (Nat.dvd_sub hdvd (Nat.dvd_refl n)) hlater

/-- Only the last block can be shorter than the others. -/
theorem length_of_mem_dropLast_chunks (hn : 0 < n) {block : List α}
    (h : block ∈ (chunks n xs).dropLast) : block.length = n := by
  fun_induction chunks n xs with
  | case1 => cases h
  | case2 a rest ih =>
      by_cases hlast : chunks n (rest.drop (n - 1)) = []
      · rw [hlast] at h
        cases h
      · rw [List.dropLast_cons_of_ne_nil hlast] at h
        rcases List.mem_cons.1 h with rfl | hlater
        · -- More elements follow this block, so it has taken all that it has room for.
          have hmore : rest.drop (n - 1) ≠ [] := by
            intro hnil
            rw [hnil] at hlast
            exact hlast (chunks_nil n)
          have hlength : n - 1 < rest.length := by
            by_contra hshort
            exact hmore (List.drop_eq_nil_of_le (Nat.le_of_not_lt hshort))
          rw [List.length_cons, List.length_take]
          omega
        · exact ih hlater

/-- A block in front of more is cut off again, where it is full or nothing follows it. -/
theorem take_drop_block {block more : List α} (hle : block.length ≤ n)
    (hfull : more ≠ [] → block.length = n) :
    (block ++ more).take n = block ∧ (block ++ more).drop n = more := by
  cases more with
  | nil =>
      rw [List.append_nil]
      exact ⟨List.take_of_length_le hle, List.drop_eq_nil_of_le hle⟩
  | cons a rest =>
      have hlength : block.length = n := hfull (List.cons_ne_nil a rest)
      exact ⟨List.take_left' hlength, List.drop_left' hlength⟩

end Chunks

end Bytes

end TokenAgent
