import TokenAgent.Bytes

/-!
# Reading from a buffer

A reader takes bytes from the front of a buffer and leaves the rest unread.  A read that asks
for more than there is fails with a `Shortfall` and consumes nothing itself; a composite read
keeps what its earlier parts have consumed, so `Reader.field` has used up the length it read
when the bytes behind it are missing.

* `Reader.take`, `Reader.skip` — exactly `n` bytes;
* `Reader.byte`, `Reader.uint16`, `Reader.uint32` — big-endian words;
* `Reader.field` — a length followed by that many bytes.
-/

namespace TokenAgent

/-- A read asked for `needed` bytes where only `remaining` were left. -/
structure Shortfall where
  needed : Nat
  remaining : Nat
  deriving DecidableEq, Repr

/-- A read from the front of a buffer.  What is unread is kept on failure as on success. -/
abbrev Reader := EStateM Shortfall Bytes

namespace Reader

/-- Exactly `n` bytes. -/
def take (n : Nat) : Reader Bytes := fun unread =>
  let front := unread.take n
  if front.length = n then .ok front (unread.drop n)
  else .error ⟨n, unread.length⟩ unread

/-- Pass over `n` bytes. -/
def skip (n : Nat) : Reader Unit := do
  let _ ← take n

/-- One byte. -/
def byte : Reader UInt8 := do
  return UInt8.ofNat (Bytes.ofBigEndian (← take 1))

/-- A big-endian word of two bytes. -/
def uint16 : Reader UInt16 := do
  return UInt16.ofNat (Bytes.ofBigEndian (← take 2))

/-- A big-endian word of four bytes. -/
def uint32 : Reader UInt32 := do
  return UInt32.ofNat (Bytes.ofBigEndian (← take 4))

/-- A field: its length as a word of four bytes, then its bytes. -/
def field : Reader Bytes := do
  let length ← uint32
  take length.toNat

/-- Run a reader under the errors of a larger format. -/
abbrev orElseFail {ε α : Type} (r : Reader α) (e : Shortfall → ε) : EStateM ε Bytes α :=
  r.adaptExcept e

theorem take_append (front rest : Bytes) :
    take front.length (front ++ rest) = .ok front rest := by
  simp [take]

theorem take_of_short {n : Nat} {unread : Bytes} (h : unread.length < n) :
    take n unread = .error ⟨n, unread.length⟩ unread := by
  have : min n unread.length ≠ n := by omega
  simp [take, this]

/-- What was taken and what is left make up what was there. -/
theorem length_of_take {n : Nat} {unread front rest : Bytes}
    (h : take n unread = .ok front rest) : rest.length + n = unread.length := by
  unfold take at h
  simp only at h
  split at h
  · rename_i hn
    injection h with _ h
    subst h
    -- Only a read of `n` bytes succeeds, so there were that many.
    have hle : n ≤ unread.length := by
      rw [List.length_take] at hn
      omega
    rw [List.length_drop]
    omega
  · cases h

end Reader

end TokenAgent
