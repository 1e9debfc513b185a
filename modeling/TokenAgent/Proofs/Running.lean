import TokenAgent.Error

/-!
# Running one step after the other

A computation that can fail is a function of its state, and so is a sequence of two of them.
The lemmas below say what a sequence does once it is known what its first part does; with them
a computation is followed step by step instead of being unfolded.

`Running.FailsWith` bounds what a computation can fail with, whatever state it starts from; a
sequence fails with what its parts fail with.
-/

namespace TokenAgent

namespace Running

variable {ε ε' σ α β : Type}

theorem bind_ok {x : EStateM ε σ α} {f : α → EStateM ε σ β} {s s' : σ} {a : α}
    (h : x s = .ok a s') : (x >>= f) s = f a s' := by
  simp only [bind, EStateM.bind, h]

theorem bind_error {x : EStateM ε σ α} {f : α → EStateM ε σ β} {s s' : σ} {e : ε}
    (h : x s = .error e s') : (x >>= f) s = .error e s' := by
  simp only [bind, EStateM.bind, h]

/-- A sequence that succeeds is one of two parts that do. -/
theorem exists_of_bind_ok {x : EStateM ε σ α} {f : α → EStateM ε σ β} {s s' : σ} {b : β}
    (h : (x >>= f) s = .ok b s') : ∃ a t, x s = .ok a t ∧ f a t = .ok b s' := by
  cases hx : x s with
  | error e t =>
      rw [bind_error hx] at h
      cases h
  | ok a t =>
      rw [bind_ok hx] at h
      exact ⟨a, t, rfl, h⟩

theorem adaptExcept_ok {x : EStateM ε σ α} {wrap : ε → ε'} {s s' : σ} {a : α}
    (h : x s = .ok a s') : x.adaptExcept wrap s = .ok a s' := by
  simp only [EStateM.adaptExcept, h]

theorem adaptExcept_error {x : EStateM ε σ α} {wrap : ε → ε'} {s s' : σ} {e : ε}
    (h : x s = .error e s') : x.adaptExcept wrap s = .error (wrap e) s' := by
  simp only [EStateM.adaptExcept, h]

/-- The result of a computation that came to an outcome and left a state. -/
def settled : Except ε α → σ → EStateM.Result ε σ α
  | .ok a, s => .ok a s
  | .error e, s => .error e s

theorem settled_inj {outcome outcome' : Except ε α} {s s' : σ} :
    settled outcome s = settled outcome' s' ↔ outcome = outcome' ∧ s = s' := by
  cases outcome with
  | error e => cases outcome' <;> simp [settled]
  | ok a => cases outcome' <;> simp [settled]

theorem exists_settled (x : EStateM ε σ α) (s : σ) : ∃ outcome s', x s = settled outcome s' := by
  cases h : x s with
  | ok a s' => exact ⟨.ok a, s', rfl⟩
  | error e s' => exact ⟨.error e, s', rfl⟩

theorem bind_settled {x : EStateM ε σ α} {f : α → EStateM ε σ β} {outcome : Except ε α}
    {g : α → Except ε β} {s s' : σ} (h : x s = settled outcome s')
    (hf : ∀ a, f a s' = settled (g a) s') : (x >>= f) s = settled (outcome >>= g) s' := by
  cases outcome with
  | error e => exact bind_error h
  | ok a => exact (bind_ok h).trans (hf a)

theorem attempt_eq (wrap : ε → Error) (outcome : Except ε α) (s : σ) :
    (Error.attempt wrap outcome : EStateM Error σ α) s = settled (outcome.mapError wrap) s := by
  cases outcome with
  | error e => rfl
  | ok a => rfl

theorem attempt_ok (wrap : ε → Error) (a : α) (s : σ) :
    (Error.attempt wrap (.ok a : Except ε α) : EStateM Error σ α) s = .ok a s := rfl

theorem attempt_error (wrap : ε → Error) (e : ε) (s : σ) :
    (Error.attempt wrap (.error e : Except ε α) : EStateM Error σ α) s = .error (wrap e) s := rfl

theorem attempt_bind (wrap : ε → Error) (outcome : Except ε α) (f : α → Except ε β) :
    (Error.attempt wrap (outcome >>= f) : EStateM Error σ β)
      = Error.attempt wrap outcome >>= fun a => Error.attempt wrap (f a) := by
  cases outcome with
  | error e => rfl
  | ok a => rfl

/-! ## Ways to fail -/

variable {P Q : ε → Prop}

/-- Whatever state a computation starts from, it fails in no other way. -/
def FailsWith (P : ε → Prop) (x : EStateM ε σ α) : Prop :=
  ∀ s e s', x s = .error e s' → P e

theorem failsWith_pure (P : ε → Prop) (a : α) : FailsWith P (pure a : EStateM ε σ α) := by
  intro s e s' hrun
  cases hrun

theorem failsWith_throw {e : ε} (h : P e) : FailsWith P (throw e : EStateM ε σ α) := by
  intro s e' s' hrun
  cases hrun
  exact h

theorem FailsWith.bind {x : EStateM ε σ α} {f : α → EStateM ε σ β} (hx : FailsWith P x)
    (hf : ∀ a, FailsWith P (f a)) : FailsWith P (x >>= f) := by
  intro s e s' hrun
  cases hfirst : x s with
  | error e₁ s₁ =>
      rw [bind_error hfirst] at hrun
      cases hrun
      exact hx s e s' hfirst
  | ok a s₁ =>
      rw [bind_ok hfirst] at hrun
      exact hf a s₁ e s' hrun

theorem FailsWith.mono {x : EStateM ε σ α} (hx : FailsWith P x) (h : ∀ e, P e → Q e) :
    FailsWith Q x :=
  fun s e s' hrun => h e (hx s e s' hrun)

theorem failsWith_adaptExcept {P : ε' → Prop} {wrap : ε → ε'} (x : EStateM ε σ α)
    (h : ∀ e, P (wrap e)) : FailsWith P (x.adaptExcept wrap) := by
  intro s e s' hrun
  cases hfirst : x s with
  | error e₁ s₁ =>
      rw [adaptExcept_error hfirst] at hrun
      cases hrun
      exact h e₁
  | ok a s₁ =>
      rw [adaptExcept_ok hfirst] at hrun
      cases hrun

theorem failsWith_attempt {P : Error → Prop} {wrap : ε → Error} {outcome : Except ε α}
    (h : ∀ e, outcome = .error e → P (wrap e)) :
    FailsWith P (Error.attempt wrap outcome : EStateM Error σ α) := by
  cases outcome with
  | error e => exact failsWith_throw (h e rfl)
  | ok a => exact failsWith_pure P a

theorem failsWith_forM {as : List α} {f : α → EStateM ε σ PUnit} (hf : ∀ a, FailsWith P (f a)) :
    FailsWith P (as.forM f) := by
  induction as with
  | nil => exact failsWith_pure P PUnit.unit
  | cons a rest ih => exact (hf a).bind fun _ => ih

end Running

end TokenAgent
