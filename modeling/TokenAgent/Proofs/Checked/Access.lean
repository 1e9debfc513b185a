import TokenAgent.Proofs.Reader

/-!
# Checked accesses

The definitions of this library are total: what is taken from beyond the end of a buffer is
empty, and no difference is less than zero.  Here the accesses are partial.  A computation made of
them stops as `Stop.outOfRange` when it reaches outside a buffer, and it is the computation
without checks (`Checked.lift`) where it never does.

* `Checked.sub?`, `Checked.slice?`, `Checked.overwrite?` — accesses, with their ranges;
* `Checked.access`, `Checked.attempt`, `Checked.outcome?` — accesses inside of computations;
* `Checked.take_eq`, `Checked.byte_eq`, `Checked.uint16_eq` — reading from the front of a buffer
  is never out of range, whatever the buffer holds.
-/

namespace TokenAgent

/-- Why a computation stops whose accesses are checked: it fails as it can fail anyway, or it
reaches out of range. -/
inductive Stop (ε : Type) where
  | failed (e : ε)
  | outOfRange
  deriving DecidableEq, Repr

def Stop.map {ε ε' : Type} (wrap : ε → ε') : Stop ε → Stop ε'
  | failed e => failed (wrap e)
  | outOfRange => outOfRange

namespace Checked

open Running

/-! ## Accesses -/

/-- A difference that is not below zero. -/
def sub? (m n : Nat) : Option Nat :=
  if n ≤ m then some (m - n) else none

/-- The bytes from `first` up to `last`. -/
def slice? (bs : Bytes) (first last : Nat) : Option Bytes :=
  if first ≤ last ∧ last ≤ bs.length then some ((bs.take last).drop first) else none

/-- Write over the bytes from `first` up to `last`, which are as many as there is data. -/
def overwrite? (bs : Bytes) (first last : Nat) (data : Bytes) : Option Bytes :=
  if first + data.length = last ∧ last ≤ bs.length then
    some (bs.take first ++ (data ++ bs.drop last))
  else none

variable {bs data : Bytes} {m n room : Nat}

theorem sub?_of_le (h : n ≤ m) : sub? m n = some (m - n) := if_pos h

theorem slice?_front (h : n ≤ bs.length) : slice? bs 0 n = some (bs.take n) :=
  if_pos ⟨Nat.zero_le n, h⟩

theorem slice?_rest (h : n ≤ bs.length) : slice? bs n bs.length = some (bs.drop n) := by
  rw [slice?, if_pos ⟨h, Nat.le_refl bs.length⟩, List.take_length]

theorem slice?_block (h : m + n ≤ bs.length) :
    slice? bs m (m + n) = some ((bs.drop m).take n) := by
  rw [slice?, if_pos ⟨Nat.le_add_right m n, h⟩, List.drop_take, Nat.add_sub_cancel_left]

/-- A buffer is filled behind its front, where there are zeros so far. -/
theorem overwrite?_zeros (front : Bytes) (h : data.length ≤ room) :
    overwrite? (front ++ List.replicate room 0) front.length (front.length + data.length) data
      = some (front ++ (data ++ List.replicate (room - data.length) 0)) := by
  have hroom : front.length + data.length ≤ (front ++ List.replicate room (0 : UInt8)).length := by
    rw [List.length_append, List.length_replicate]
    exact Nat.add_le_add_left h _
  have hdrop : (front ++ List.replicate room (0 : UInt8)).drop (front.length + data.length)
      = List.replicate (room - data.length) 0 := by
    rw [List.drop_append, List.drop_eq_nil_of_le (Nat.le_add_right _ _), Nat.add_sub_cancel_left,
      List.drop_replicate, List.nil_append]
  rw [overwrite?, if_pos ⟨rfl, hroom⟩, List.take_left, hdrop]

theorem overwrite?_rest (front : Bytes) (h : data.length = room) :
    overwrite? (front ++ List.replicate room 0) front.length (front.length + room) data
      = some (front ++ data) := by
  have hfill := overwrite?_zeros front (Nat.le_of_eq h)
  rw [h, Nat.sub_self, List.replicate_zero, List.append_nil] at hfill
  exact hfill

/-- A buffer of zeros is replaced as a whole. -/
theorem overwrite?_blank (h : data.length = room) :
    overwrite? (List.replicate room 0) 0 room data = some data := by
  have hrest := overwrite?_rest [] h
  rw [List.length_nil, Nat.zero_add] at hrest
  exact hrest

/-! ## Computations -/

variable {ε ε' σ α β : Type}

/-- A computation without accesses to check. -/
def lift (x : EStateM ε σ α) : EStateM (Stop ε) σ α :=
  x.adaptExcept .failed

/-- An access inside of a computation. -/
def access : Option α → EStateM (Stop ε) σ α
  | some a => pure a
  | none => throw .outOfRange

/-- The outcome of a pure step with checked accesses, inside of an operation. -/
def attempt (wrap : ε → Error) : Option (Except ε α) → EStateM (Stop Error) σ α
  | some outcome => lift (Error.attempt wrap outcome)
  | none => throw .outOfRange

/-- The outcome of a computation, if it was never out of range. -/
def outcome? : EStateM.Result (Stop ε) σ α → Option (Except ε α)
  | .ok a _ => some (.ok a)
  | .error (.failed e) _ => some (.error e)
  | .error .outOfRange _ => none

theorem lift_ok {x : EStateM ε σ α} {s s' : σ} {a : α} (h : x s = .ok a s') :
    lift x s = .ok a s' :=
  adaptExcept_ok h

theorem lift_error {x : EStateM ε σ α} {s s' : σ} {e : ε} (h : x s = .error e s') :
    lift x s = .error (.failed e) s' :=
  adaptExcept_error h

theorem lift_pure (a : α) : lift (pure a : EStateM ε σ α) = pure a := rfl

theorem adaptExcept_bind (x : EStateM ε σ α) (f : α → EStateM ε σ β) (wrap : ε → ε') :
    (x >>= f).adaptExcept wrap = x.adaptExcept wrap >>= fun a => (f a).adaptExcept wrap := by
  funext s
  cases hx : x s with
  | error e s' => rw [adaptExcept_error (bind_error hx), bind_error (adaptExcept_error hx)]
  | ok a s' =>
      rw [bind_ok (adaptExcept_ok hx)]
      simp only [EStateM.adaptExcept, bind_ok hx]

theorem lift_bind (x : EStateM ε σ α) (f : α → EStateM ε σ β) :
    lift (x >>= f) = lift x >>= fun a => lift (f a) :=
  adaptExcept_bind x f Stop.failed

theorem lift_adaptExcept (x : EStateM ε σ α) (wrap : ε → ε') :
    (lift x).adaptExcept (Stop.map wrap) = lift (x.adaptExcept wrap) := by
  funext s
  cases hx : x s with
  | error e s' =>
      rw [adaptExcept_error (lift_error hx), lift_error (adaptExcept_error hx)]
      rfl
  | ok a s' => rw [adaptExcept_ok (lift_ok hx), lift_ok (adaptExcept_ok hx)]

theorem lift_ite (c : Prop) [Decidable c] (x y : EStateM ε σ α) :
    lift (if c then x else y) = if c then lift x else lift y :=
  apply_ite lift c x y

theorem access_some (a : α) : (access (some a) : EStateM (Stop ε) σ α) = pure a := rfl

theorem attempt_some (wrap : ε → Error) (outcome : Except ε α) :
    (attempt wrap (some outcome) : EStateM (Stop Error) σ α)
      = lift (Error.attempt wrap outcome) := rfl

theorem outcome?_ok {x : EStateM ε σ α} {s s' : σ} {a : α} (h : x s = .ok a s') :
    outcome? (lift x s) = some (.ok a) := by
  rw [lift_ok h]
  rfl

theorem outcome?_error {x : EStateM ε σ α} {s s' : σ} {e : ε} (h : x s = .error e s') :
    outcome? (lift x s) = some (.error e) := by
  rw [lift_error h]
  rfl

/-- A computation without accesses is never out of range. -/
theorem lift_ne_outOfRange (x : EStateM ε σ α) (s s' : σ) : lift x s ≠ .error .outOfRange s' := by
  intro h
  cases hx : x s with
  | error e s₁ =>
      rw [lift_error hx] at h
      cases h
  | ok a s₁ =>
      rw [lift_ok hx] at h
      cases h

/-! ## Reading -/

/-- Exactly `n` bytes, taken off the front once it is known that they are there. -/
def take (n : Nat) : EStateM (Stop Shortfall) Bytes Bytes := do
  let unread ← get
  if unread.length < n then throw (.failed ⟨n, unread.length⟩)
  else
    let front ← access (slice? unread 0 n)
    set (← access (slice? unread n unread.length))
    return front

/-- One byte. -/
def byte : EStateM (Stop Shortfall) Bytes UInt8 := do
  return UInt8.ofNat (Bytes.ofBigEndian (← take 1))

/-- A big-endian word of two bytes. -/
def uint16 : EStateM (Stop Shortfall) Bytes UInt16 := do
  return UInt16.ofNat (Bytes.ofBigEndian (← take 2))

theorem take_eq (n : Nat) : take n = lift (Reader.take n) := by
  funext unread
  have hget : (get : EStateM (Stop Shortfall) Bytes Bytes) unread = .ok unread unread := rfl
  rw [take, bind_ok hget]
  by_cases hshort : unread.length < n
  · rw [if_pos hshort, lift_error (Reader.take_of_short hshort)]
    rfl
  · have hle : n ≤ unread.length := Nat.le_of_not_lt hshort
    have hread : Reader.take n unread = .ok (unread.take n) (unread.drop n) :=
      Reader.take_eq_ok_iff.2 ⟨List.length_take_of_le hle, (List.take_append_drop n unread).symm⟩
    rw [if_neg hshort, slice?_front hle, slice?_rest hle, lift_ok hread]
    rfl

theorem byte_eq : byte = lift Reader.byte := by
  simp only [byte, Reader.byte, take_eq, lift_bind, lift_pure]

theorem uint16_eq : uint16 = lift Reader.uint16 := by
  simp only [uint16, Reader.uint16, take_eq, lift_bind, lift_pure]

/-- What is done with bytes that were read can count on their number. -/
theorem take_bind_congr {wrap : Shortfall → ε} {f g : Bytes → EStateM (Stop ε) Bytes α}
    (h : ∀ front, front.length = n → f front = g front) :
    (lift ((Reader.take n).orElseFail wrap) >>= f)
      = (lift ((Reader.take n).orElseFail wrap) >>= g) := by
  funext unread
  cases hread : Reader.take n unread with
  | error missing rest =>
      have hlift : lift ((Reader.take n).orElseFail wrap) unread
          = .error (.failed (wrap missing)) rest :=
        lift_error (adaptExcept_error hread)
      rw [bind_error hlift, bind_error hlift]
  | ok front rest =>
      have hlift : lift ((Reader.take n).orElseFail wrap) unread = .ok front rest :=
        lift_ok (adaptExcept_ok hread)
      rw [bind_ok hlift, bind_ok hlift, h front (Reader.take_eq_ok_iff.1 hread).1]

end Checked

end TokenAgent
