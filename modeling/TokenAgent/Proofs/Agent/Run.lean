import TokenAgent.Agent.Operation
import TokenAgent.Proofs.Agent.Handler

/-!
# Runs of operations

`Agent.after` is the agent that a run of operations leaves.  What every operation keeps is kept
by the whole run (`Agent.after_induction`).

Most operations reach nothing of an agent but its token (`Agent.ReachesToken`).  Asking for a key
and keeping it is the exception: what `Agent.loadKey` comes to is kept with its identity
(`Agent.loadKey_settled`), and asking for several keys is a run of its own
(`Agent.loadEach_eq_after`).
-/

namespace TokenAgent

/-! ## Keys of identities -/

/-- An identity after its key was asked for: a key that was found takes the place of the one
before it. -/
def Identity.keeping (i : Identity) (outcome : Except Error KeyBlob) : Identity :=
  { i with key := outcome.toOption.or i.key }

/-- A key that was not found leaves all identities as they are. -/
theorem Identity.modify_keeping_error (list : List Identity) (index : Nat) (e : Error) :
    (list.modify index fun i => i.keeping (.error e)) = list :=
  List.modify_id index list

namespace Agent

open Running

variable {σ ρ : Type} {a : Agent σ}

/-! ## Operations of the token -/

/-- An operation that changes nothing of an agent but its token, however it ends. -/
def ReachesToken {α : Type} (operation : EStateM Error (Agent σ) α) : Prop :=
  ∀ a, ∃ outcome token, operation a = settled outcome { a with token := token }

theorem onToken_of_settled {α : Type} {operation : EStateM Error σ α} {outcome : Except Error α}
    {token : σ} (h : operation a.token = settled outcome token) :
    onToken operation a = settled outcome { a with token := token } := by
  rw [onToken, h]
  cases outcome with
  | ok result => rfl
  | error e => rfl

theorem exists_onToken {α : Type} (operation : EStateM Error σ α) (a : Agent σ) :
    ∃ outcome token, onToken operation a = settled outcome { a with token := token } := by
  rcases exists_settled operation a.token with ⟨outcome, token, hoperation⟩
  exact ⟨outcome, token, onToken_of_settled hoperation⟩

theorem settle_settled {α : Type} (wrap : α → Outcome) (outcome : Except Error α) (a : Agent σ) :
    settle wrap (settled outcome a) = (outcome.map wrap, a) := by
  cases outcome with
  | ok result => rfl
  | error e => rfl

theorem settle_of_reaches {α : Type} {operation : EStateM Error (Agent σ) α}
    (h : ReachesToken operation) (wrap : α → Outcome) (a : Agent σ) :
    ∃ token, (settle wrap (operation a)).2 = { a with token := token } := by
  rcases h a with ⟨outcome, token, hoperation⟩
  refine ⟨token, ?_⟩
  rw [hoperation, settle_settled]

variable [Transport σ]

theorem publicKey_of_settled {i : Identity} {outcome : Except Error KeyBlob} {token : σ}
    (h : Token.publicKey a.timing i a.token = settled outcome token) :
    publicKey i a = settled outcome { a with token := token } :=
  onToken_of_settled h

theorem reaches_publicKey (i : Identity) : ReachesToken (publicKey (σ := σ) i) := by
  intro a
  exact exists_onToken (Token.publicKey a.timing i) a

theorem reaches_sign (i : Identity) (challenge : Bytes) :
    ReachesToken (sign (σ := σ) i challenge) := by
  intro a
  exact exists_onToken (Token.sign a.timing i challenge) a

theorem reaches_exchange (command : Command) : ReachesToken (exchange (σ := σ) command) := by
  intro a
  exact exists_onToken (Exchange.run a.timing command) a

theorem reaches_handle (message : Bytes) : ReachesToken (handle (σ := σ) message) := by
  intro a
  -- Only a request that is carried out gets as far as the token.
  cases hdecode : Request.decode message with
  | error e => exact ⟨.error (.decode e), a.token, handle_of_error hdecode⟩
  | ok request =>
      cases request with
      | identities => exact ⟨.ok a.identitiesAnswer, a.token, handle_identities hdecode⟩
      | sign request =>
          cases hkey : a.find? request.key with
          | none => exact ⟨.ok Answer.failure, a.token, handle_unknown hdecode hkey⟩
          | some i =>
              cases hchallenge : SignRequest.challenge request with
              | error e left =>
                  exact ⟨.error (.decode e), a.token, handle_unreadable hdecode hkey hchallenge⟩
              | ok challenge left =>
                  rcases reaches_sign i challenge a with ⟨outcome, token, hsign⟩
                  refine ⟨outcome >>= fun signature => .ok (Answer.signature signature), token, ?_⟩
                  rw [handle_readable hdecode hkey hchallenge]
                  exact bind_settled hsign fun _ => rfl

/-! ## Keys that are kept -/

section Load

variable {index : Nat} {i : Identity}

theorem loadKey_outside (h : a.identities[index]? = none) :
    loadKey index a = .error (.identity (.noSuchIdentity index)) a := by
  have hget : (get : EStateM Error (Agent σ) (Agent σ)) a = .ok a a := rfl
  rw [loadKey, bind_ok hget, h]
  rfl

variable (h : a.identities[index]? = some i)

include h

theorem loadKey_of_error {e : Error} {a' : Agent σ} (hkey : publicKey i a = .error e a') :
    loadKey index a = .error e a' := by
  have hget : (get : EStateM Error (Agent σ) (Agent σ)) a = .ok a a := rfl
  rw [loadKey, bind_ok hget, h]
  exact bind_error hkey

theorem loadKey_of_ok {key : KeyBlob} {a' : Agent σ} (hkey : publicKey i a = .ok key a') :
    loadKey index a = .ok key (a'.setKey index key) := by
  have hget : (get : EStateM Error (Agent σ) (Agent σ)) a = .ok a a := rfl
  rw [loadKey, bind_ok hget, h]
  exact bind_ok hkey

/-- What a request for a key comes to is kept with its identity, and reaches nothing else but
the token. -/
theorem loadKey_settled {outcome : Except Error KeyBlob} {token : σ}
    (hkey : publicKey i a = settled outcome { a with token := token }) :
    loadKey index a = settled outcome { a with
      token := token
      identities := a.identities.modify index fun i => i.keeping outcome } := by
  cases outcome with
  | error e =>
      rw [loadKey_of_error h hkey, Identity.modify_keeping_error]
      rfl
  | ok key => exact loadKey_of_ok h hkey

end Load

/-- Whatever becomes of the first request, the others follow it. -/
theorem loadEach_cons {index : Nat} {outcome : Except Error KeyBlob} {a' : Agent σ}
    (h : loadKey index a = settled outcome a') (rest : List Nat) :
    a.loadEach (index :: rest) = a'.loadEach rest := by
  rw [loadEach, h]
  cases outcome with
  | ok key => rfl
  | error e => rfl

theorem loadEach_append (a : Agent σ) (earlier later : List Nat) :
    a.loadEach (earlier ++ later) = (a.loadEach earlier).loadEach later := by
  induction earlier generalizing a with
  | nil => rfl
  | cons index earlier ih =>
      rcases exists_settled (loadKey index) a with ⟨outcome, a', hload⟩
      rw [List.cons_append, loadEach_cons hload, loadEach_cons hload, ih]

theorem loadEach_range_succ {m : Nat} {outcome : Except Error KeyBlob} {a' : Agent σ}
    (h : loadKey m (a.loadEach (List.range m)) = settled outcome a') :
    a.loadEach (List.range (m + 1)) = a' := by
  rw [List.range_succ, loadEach_append, loadEach_cons h]
  rfl

/-! ## Runs -/

variable {follow : σ → ρ → σ}

/-- The agent that operations leave, carried out one after the other. -/
def after (follow : σ → ρ → σ) (a : Agent σ) (operations : List (Operation ρ)) : Agent σ :=
  (performAll follow a operations).2

theorem after_cons (operation : Operation ρ) (rest : List (Operation ρ)) :
    after follow a (operation :: rest) = after follow (perform follow a operation).2 rest := rfl

/-- What holds of an agent and is kept by each of the operations holds after all of them. -/
theorem after_induction {P : Agent σ → Prop} {operations : List (Operation ρ)}
    (hstep : ∀ a, ∀ operation ∈ operations, P a → P (perform follow a operation).2) (h : P a) :
    P (after follow a operations) := by
  induction operations generalizing a with
  | nil => exact h
  | cons operation rest ih =>
      apply ih
      · intro a' later hmem
        exact hstep a' later (List.mem_cons_of_mem operation hmem)
      · exact hstep a operation List.mem_cons_self h

/-- Asking for several keys is asking for each of them in turn. -/
theorem loadEach_eq_after (follow : σ → ρ → σ) (a : Agent σ) (indices : List Nat) :
    a.loadEach indices = after follow a (indices.map Operation.loadKey) := by
  induction indices generalizing a with
  | nil => rfl
  | cons index rest ih =>
      rcases exists_settled (loadKey index) a with ⟨outcome, a', hload⟩
      have hstep : (perform follow a (.loadKey index)).2 = a' := by
        rw [perform, hload, settle_settled]
      rw [loadEach_cons hload, List.map_cons, after_cons, hstep, ih]

end Agent

end TokenAgent
