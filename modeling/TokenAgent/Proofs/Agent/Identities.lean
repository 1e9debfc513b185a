import Mathlib.Data.List.Basic
import Mathlib.Data.List.InsertIdx
import TokenAgent.Proofs.Agent.Run

/-!
# Who changes the identities

The identities of an agent change when one is added or removed, and when a key is kept; nothing
else that can be done with an agent touches them.

* `Agent.Loaded`, `Agent.LoadedEach`, `Agent.Change` — what a request for a key, requests for several
  keys, and any operation make of the list of identities, by what the requests come to;
* `Agent.enlist` — what an operation makes of the list if keys are left out of it;
* `Agent.after_identities` — both, for runs of any length.
-/

namespace TokenAgent

namespace Agent

open Running

/-! ## Changes of the list -/

/-- An operation that has nothing to do with the list of identities. -/
def Operation.LeavesIdentities {ρ : Type} : Operation ρ → Prop
  | .handle _ | .publicKey _ | .sign _ _ | .exchange _ | .direct _ => True
  | .loadKey _ | .loadKeys | .add _ | .remove _ => False

/-- What a request for the key at a position makes of the list. -/
inductive Loaded (index : Nat) : Except Error KeyBlob → List Identity → List Identity → Prop where
  | failed (e : Error) (list : List Identity) : Loaded index (.error e) list list
  | kept {list : List Identity} {i : Identity} (key : KeyBlob) (h : list[index]? = some i) :
      Loaded index (.ok key) list (list.set index { i with key := some key })

section Relations

variable {σ : Type} [Transport σ]

/-- What requests for the keys at several positions make of an agent.  Each is made to the agent
that the requests before it left, whatever they came to, and by what it comes to itself the key at
its own position changes or none. -/
inductive LoadedEach : List Nat → Agent σ → Agent σ → Prop where
  | done (a : Agent σ) : LoadedEach [] a a
  | next {index : Nat} {rest : List Nat} {outcome : Except Error KeyBlob} {a a' a'' : Agent σ}
      (request : loadKey index a = settled outcome a')
      (first : Loaded index outcome a.identities a'.identities)
      (others : LoadedEach rest a' a'') : LoadedEach (index :: rest) a a''

/-- What an operation with this outcome makes of the identities of an agent. -/
inductive Change {ρ : Type} :
    Operation ρ → Except Error Outcome → Agent σ → Agent σ → Prop where
  | none {operation : Operation ρ} {a a' : Agent σ} (h : operation.LeavesIdentities)
      (outcome : Except Error Outcome) (hsame : a'.identities = a.identities) :
      Change operation outcome a a'
  | load {index : Nat} {outcome : Except Error KeyBlob} {a a' : Agent σ}
      (h : Loaded index outcome a.identities a'.identities) :
      Change (.loadKey index) (outcome.map .key) a a'
  /-- The keys are asked for one after the other; the outcome is how many are known then. -/
  | loadAll {a a' : Agent σ} (h : LoadedEach (List.range a.identities.length) a a') :
      Change .loadKeys (.ok (.count a'.keyedCount)) a a'
  | add {i : Identity} {a a' : Agent σ} (h : a'.identities = a.identities ++ [i]) :
      Change (.add i) (.ok (.position a.identities.length)) a a'
  | remove {index : Nat} {i : Identity} {a a' : Agent σ} (hat : a.identities[index]? = some i)
      (h : a'.identities = a.identities.eraseIdx index) :
      Change (.remove index) (.ok (.removed (some i))) a a'
  | removeOutside {index : Nat} {a a' : Agent σ} (houtside : a.identities.length ≤ index)
      (h : a'.identities = a.identities) : Change (.remove index) (.ok (.removed .none)) a a'

end Relations

/-- What an operation makes of the list of identities without their keys. -/
def enlist {ρ : Type} (list : List Identity) : Operation ρ → List Identity
  | .add i => list ++ [i.withoutKey]
  | .remove index => list.eraseIdx index
  | _ => list

section Keys

variable {list list' : List Identity}

theorem Loaded.map_withoutKey {index : Nat} {outcome : Except Error KeyBlob}
    (h : Loaded index outcome list list') :
    list'.map Identity.withoutKey = list.map Identity.withoutKey := by
  cases h with
  | failed e => rfl
  | @kept _ i key h =>
      -- The identity differs from the one that it replaces in its key only.
      rcases List.getElem?_eq_some_iff.1 h with ⟨hindex, hat⟩
      have hbound : index < (list.map Identity.withoutKey).length := by
        simpa using hindex
      have hsame : Identity.withoutKey { i with key := some key }
          = (list.map Identity.withoutKey)[index] := by
        rw [List.getElem_map, hat]
        rfl
      rw [List.map_set, hsame, List.set_getElem_self]

theorem Loaded.keeping {index : Nat} {i : Identity} (h : list[index]? = some i)
    (outcome : Except Error KeyBlob) :
    Loaded index outcome list (list.modify index fun i => i.keeping outcome) := by
  cases outcome with
  | error e =>
      rw [Identity.modify_keeping_error]
      exact .failed e list
  | ok key =>
      rw [List.modify_eq_set_getElem?, h]
      exact .kept key h

end Keys

/-! ## What the operations do -/

variable {σ ρ : Type} [Transport σ]

theorem LoadedEach.map_withoutKey {indices : List Nat} {a a' : Agent σ}
    (h : LoadedEach indices a a') :
    a'.identities.map Identity.withoutKey = a.identities.map Identity.withoutKey := by
  induction h with
  | done a => rfl
  | next request first others ih => exact ih.trans first.map_withoutKey

theorem Change.map_withoutKey {operation : Operation ρ} {outcome : Except Error Outcome}
    {a a' : Agent σ} (h : Change operation outcome a a') :
    a'.identities.map Identity.withoutKey
      = enlist (a.identities.map Identity.withoutKey) operation := by
  cases h with
  | none h _ hsame =>
      rw [hsame]
      cases operation with
      | handle | publicKey | sign | exchange | direct => rfl
      | loadKey | loadKeys | add | remove => exact h.elim
  | load h => exact h.map_withoutKey
  | loadAll h => exact h.map_withoutKey
  | add h => simp [h, enlist]
  | remove _ h => simp [h, enlist, List.eraseIdx_map]
  | removeOutside houtside h =>
      rw [h, enlist, List.eraseIdx_of_length_le]
      simpa using houtside

theorem loadKey_loaded (index : Nat) (a : Agent σ) :
    ∃ outcome a', loadKey index a = settled outcome a' ∧
      Loaded index outcome a.identities a'.identities := by
  cases hat : a.identities[index]? with
  | none => exact ⟨.error (.identity (.noSuchIdentity index)), a, loadKey_outside hat, .failed _ _⟩
  | some i =>
      rcases reaches_publicKey i a with ⟨outcome, token, hkey⟩
      exact ⟨outcome, _, loadKey_settled hat hkey, .keeping hat outcome⟩

theorem loadEach_loaded (indices : List Nat) (a : Agent σ) :
    LoadedEach indices a (a.loadEach indices) := by
  induction indices generalizing a with
  | nil => exact .done a
  | cons index rest ih =>
      rcases loadKey_loaded index a with ⟨outcome, a', hload, hloaded⟩
      rw [loadEach_cons hload]
      exact .next hload hloaded (ih a')

theorem perform_change (follow : σ → ρ → σ) (a : Agent σ) (operation : Operation ρ) :
    Change operation (perform follow a operation).1 a (perform follow a operation).2 := by
  -- What reaches the token alone leaves the list as it is.
  have hreaches : ∀ {α : Type} {step : EStateM Error (Agent σ) α} {wrap : α → Outcome},
      ReachesToken step → operation.LeavesIdentities →
      perform follow a operation = settle wrap (step a) →
      Change operation (perform follow a operation).1 a (perform follow a operation).2 := by
    intro α step wrap hreach hleaves hperform
    rcases settle_of_reaches hreach wrap a with ⟨token, htoken⟩
    refine .none hleaves _ ?_
    rw [hperform, htoken]
  cases operation with
  | handle message => exact hreaches (reaches_handle message) trivial rfl
  | publicKey i => exact hreaches (reaches_publicKey i) trivial rfl
  | sign i challenge => exact hreaches (reaches_sign i challenge) trivial rfl
  | exchange command => exact hreaches (reaches_exchange command) trivial rfl
  | direct direction =>
      have hleaves : (Operation.direct direction).LeavesIdentities := trivial
      exact .none hleaves _ rfl
  | loadKey index =>
      rcases loadKey_loaded index a with ⟨outcome, a', hload, hloaded⟩
      rw [perform, hload, settle_settled]
      exact .load hloaded
  | loadKeys => exact .loadAll (loadEach_loaded _ a)
  | add i => exact .add rfl
  | remove index =>
      -- Taking from beyond the end leaves the list as it is.
      rw [perform, remove]
      cases hat : a.identities[index]? with
      | some i => exact .remove hat rfl
      | none =>
          have houtside : a.identities.length ≤ index := List.getElem?_eq_none_iff.1 hat
          exact .removeOutside houtside (List.eraseIdx_of_length_le houtside)

/-- Apart from keys, a run leaves the list that its additions and removals alone make.  After any
run, the next operation changes the list as it owns it: a request for a key that fails changes
nothing, one that succeeds changes the key at its position, requests for all keys do so one after
the other, and an answer, a signature or an exchange changes nothing, whatever it comes to. -/
theorem after_identities (follow : σ → ρ → σ) (a : Agent σ) (operations : List (Operation ρ)) :
    (after follow a operations).identities.map Identity.withoutKey
        = operations.foldl enlist (a.identities.map Identity.withoutKey) ∧
      ∀ next : Operation ρ,
        Change next (perform follow (after follow a operations) next).1
          (after follow a operations) (perform follow (after follow a operations) next).2 := by
  constructor
  · induction operations generalizing a with
    | nil => rfl
    | cons operation rest ih =>
        rw [after_cons, ih, (perform_change follow a operation).map_withoutKey]
        rfl
  · intro next
    exact perform_change follow (after follow a operations) next

end Agent

end TokenAgent
