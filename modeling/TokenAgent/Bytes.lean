/-!
# Bytes and fixed-width integers

Every buffer of the agent is a list of bytes.  This module holds the two byte orders that occur
on its wires and the splitting of a buffer into blocks:

* `bigEndian w n` — the `w` low-order bytes of `n`, most significant first;
* `ofBigEndian`, `ofLittleEndian` — the number that a buffer spells in either order;
* `chunks n` — consecutive blocks of `n` bytes, the last one possibly shorter.
-/

namespace TokenAgent

/-- A buffer. -/
abbrev Bytes := List UInt8

namespace Bytes

/-! ## Byte order -/

/-- The `width` low-order bytes of `n`, most significant first; higher bytes of `n` are lost. -/
def bigEndian : (width : Nat) → (n : Nat) → Bytes
  | 0, _ => []
  | width + 1, n => bigEndian width (n / 256) ++ [UInt8.ofNat n]

/-- The number whose bytes are `bs`, most significant first. -/
def ofBigEndian (bs : Bytes) : Nat :=
  bs.foldl (fun n b => 256 * n + b.toNat) 0

/-- The number whose bytes are `bs`, least significant first. -/
def ofLittleEndian (bs : Bytes) : Nat :=
  bs.foldr (fun b n => b.toNat + 256 * n) 0

@[simp] theorem length_bigEndian (width n : Nat) : (bigEndian width n).length = width := by
  induction width generalizing n with
  | zero => rfl
  | succ width ih => simp [bigEndian, ih]

/-! ## Blocks -/

/-- Consecutive blocks of `n` elements, the last one possibly shorter.  A size of zero counts
as one, so every block holds something. -/
def chunks {α : Type} (n : Nat) : List α → List (List α)
  | [] => []
  | a :: rest => (a :: rest.take (n - 1)) :: chunks n (rest.drop (n - 1))
termination_by xs => xs.length
decreasing_by
  simp only [List.length_cons, List.length_drop]
  omega

@[simp] theorem chunks_nil {α : Type} (n : Nat) : chunks n ([] : List α) = [] := by
  simp [chunks]

theorem chunks_cons {α : Type} (n : Nat) (a : α) (rest : List α) :
    chunks n (a :: rest) = (a :: rest.take (n - 1)) :: chunks n (rest.drop (n - 1)) := by
  rw [chunks]

/-- Nothing is lost, repeated or reordered by cutting into blocks. -/
theorem flatten_chunks {α : Type} (n : Nat) (xs : List α) : (chunks n xs).flatten = xs := by
  fun_induction chunks n xs with
  | case1 => rfl
  | case2 a rest ih => simp [ih]

end Bytes

end TokenAgent
