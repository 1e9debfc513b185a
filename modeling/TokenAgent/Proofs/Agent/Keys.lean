import TokenAgent.Proofs.Agent.Identities
import TokenAgent.Proofs.Exchange.Simulated
import TokenAgent.Proofs.Token.PublicKey

/-!
# Keys on offer

A key that the agent asks for and keeps is a point of the curve, so the only keys of other kinds
that it can ever hold are those that its identities brought along (`Agent.after_keys`).
-/

namespace TokenAgent

namespace Agent

open Running Point

/-- The keys in a list of identities are all of this kind. -/
def KeysAre (kind : KeyBlob → Prop) (list : List Identity) : Prop :=
  ∀ i ∈ list, ∀ key, i.key = some key → kind key

variable {σ ρ : Type} [Transport σ] {a a' : Agent σ} {index : Nat} {key : KeyBlob}

/-! ## Requests for keys that are kept -/

theorem isPoint_of_loadKey (h : loadKey index a = .ok key a') : key.IsPoint := by
  cases hat : a.identities[index]? with
  | none =>
      rw [loadKey_outside hat] at h
      cases h
  | some i =>
      rcases exists_settled (Token.publicKey a.timing i) a.token with ⟨outcome, token, htoken⟩
      rw [loadKey_settled hat (publicKey_of_settled htoken)] at h
      cases outcome with
      | error e => cases h
      | ok key' =>
          cases h
          exact Token.isPoint_of_publicKey htoken

theorem exists_kept (h : loadKey index a = .ok key a') :
    ∃ i, a'.identities[index]? = some i ∧ i.key = some key := by
  rcases loadKey_loaded index a with ⟨outcome, a'', hload, hloaded⟩
  cases outcome with
  | error e =>
      rw [hload] at h
      cases h
  | ok key' =>
      rw [hload] at h
      cases h
      generalize hlist : a'.identities = list at hloaded ⊢
      cases hloaded with
      | kept key hat =>
          rcases List.getElem?_eq_some_iff.1 hat with ⟨hindex, _⟩
          exact ⟨_, List.getElem?_set_self hindex, rfl⟩

/-! ## Runs -/

variable {kind : KeyBlob → Prop}

theorem Loaded.keysAre {outcome : Except Error KeyBlob} {list list' : List Identity}
    (hkept : ∀ key, outcome = .ok key → kind key) (h : Loaded index outcome list list')
    (hlist : KeysAre kind list) : KeysAre kind list' := by
  cases h with
  | failed e => exact hlist
  | @kept _ i key hat =>
      intro j hmem key' hkey'
      rcases List.mem_or_eq_of_mem_set hmem with hold | rfl
      · exact hlist j hold key' hkey'
      · injection hkey' with hsame
        rw [← hsame]
        exact hkept key rfl

theorem Change.eq_of_leaves {operation : Operation ρ} {outcome : Except Error Outcome}
    (h : Change operation outcome a a') (hleaves : operation.LeavesIdentities) :
    a'.identities = a.identities := by
  cases h with
  | none _ _ hsame => exact hsame
  | load => exact hleaves.elim
  | loadAll => exact hleaves.elim
  | add => exact hleaves.elim
  | remove => exact hleaves.elim
  | removeOutside => exact hleaves.elim

variable {follow : σ → ρ → σ}

theorem identities_of_leaves {operation : Operation ρ} (h : operation.LeavesIdentities) :
    (perform follow a operation).2.identities = a.identities :=
  (perform_change follow a operation).eq_of_leaves h

variable (hpoint : ∀ key, key.IsPoint → kind key)

include hpoint

theorem perform_loadKey_keysAre (index : Nat) (h : KeysAre kind a.identities) :
    KeysAre kind (perform follow a (.loadKey index)).2.identities := by
  rcases loadKey_loaded index a with ⟨outcome, a', hload, hloaded⟩
  rw [perform, hload, settle_settled]
  refine hloaded.keysAre ?_ h
  rintro key rfl
  exact hpoint key (isPoint_of_loadKey hload)

theorem perform_keysAre {operation : Operation ρ}
    (hadd : ∀ i, operation = .add i → ∀ key, i.key = some key → kind key)
    (h : KeysAre kind a.identities) :
    KeysAre kind (perform follow a operation).2.identities := by
  cases operation with
  | handle | publicKey | sign | exchange | direct =>
      rw [identities_of_leaves]
      · exact h
      · trivial
  | loadKey index => exact perform_loadKey_keysAre hpoint index h
  | loadKeys =>
      -- Several keys are asked for one after the other.
      change KeysAre kind (a.loadEach (List.range a.identities.length)).identities
      rw [loadEach_eq_after follow]
      refine after_induction (P := fun a => KeysAre kind a.identities) ?_ h
      intro a' operation hmem h'
      rcases List.mem_map.1 hmem with ⟨index, _, rfl⟩
      exact perform_loadKey_keysAre hpoint index h'
  | add i =>
      intro j hmem key hkey
      rcases List.mem_append.1 hmem with hold | hnew
      · exact h j hold key hkey
      · rcases List.mem_singleton.1 hnew with rfl
        exact hadd j rfl key hkey
  | remove index =>
      intro j hmem key hkey
      exact h j (List.mem_of_mem_eraseIdx hmem) key hkey

theorem after_keysAre {operations : List (Operation ρ)}
    (hadd : ∀ i, .add i ∈ operations → ∀ key, i.key = some key → kind key)
    (h : KeysAre kind a.identities) : KeysAre kind (after follow a operations).identities := by
  refine after_induction (P := fun a => KeysAre kind a.identities) ?_ h
  intro a' operation hmem h'
  refine perform_keysAre hpoint ?_ h'
  rintro i rfl
  exact hadd i hmem

omit hpoint

/-- A response to a request for a key is served as a key exactly if it is accepted, long enough,
and tells a point of the curve; the key is this point.  So after any run a key that is asked for
and kept is a point, and so are all keys that did not come with their identities. -/
theorem after_keys (follow : σ → ρ → σ) (a : Agent σ) (operations : List (Operation ρ)) :
    (∀ (timing : Timing) (i : Identity) (response : Response) (s s' : σ),
      Exchange.run timing (Token.keyRequest i) s = .ok response s' →
      ∃ outcome, Token.publicKey timing i s = settled outcome s' ∧
        Token.Serves response outcome ∧
        ((∃ key, outcome = .ok key) ↔
          response.status.Accepted ∧ 66 ≤ response.payload.length ∧
            P256.HasPoint (Bytes.ofBigEndian (reportedX response.payload))) ∧
        ∀ key, outcome = .ok key → Token.Reports response.payload key) ∧
    (∀ index key a', loadKey index (after follow a operations) = .ok key a' →
      key.IsPoint ∧ ∃ i, a'.identities[index]? = some i ∧ i.key = some key) ∧
    KeysAre (fun key => key.IsPoint ∨ (∃ i ∈ a.identities, i.key = some key) ∨
        ∃ i, .add i ∈ operations ∧ i.key = some key)
      (after follow a operations).identities := by
  refine ⟨?_, ?_, ?_⟩
  · intro timing i response s s' hrun
    have hserves := Token.serves_keyOf i response
    refine ⟨_, Token.publicKey_of_run hrun, hserves, hserves.ok_iff, ?_⟩
    intro key hkey
    rw [hkey] at hserves
    exact hserves.reports
  · intro index key a' hload
    exact ⟨isPoint_of_loadKey hload, exists_kept hload⟩
  · apply after_keysAre
    · intro key hpoint
      exact Or.inl hpoint
    · intro i hmem key hkey
      exact Or.inr (Or.inr ⟨i, hmem, hkey⟩)
    · intro i hmem key hkey
      exact Or.inr (Or.inl ⟨i, hmem, hkey⟩)

/-- A token that reports the generator of the curve: the key is the generator. -/
theorem after_keys_generator :
    let x := Bytes.bigEndian 32
      0x6b17d1f2e12c4247f8bce6e563a440f277037d812deb33a0f4a13945d898c296
    let y := Bytes.bigEndian 32
      0x4fe342e2fe1a7f9b8ee7eb4a7c0f9e162bce33576b315ececbb6406837bf51f5
    let message := 0x41 :: 0x04 :: (x ++ y) ++ Bytes.bigEndian 2 0x9000
    let token := { Simulator.fresh with script := [.raw (Frame.wire message)] }
    ∃ key token', Token.publicKey Timing.default (Identity.ofHost "host") token = .ok key token' ∧
      key.HoldsPoint x y := by
  intro x y message token
  have hx : x.length = 32 := Bytes.length_bigEndian 32 _
  have hy : y.length = 32 := Bytes.length_bigEndian 32 _
  have hreportedX : reportedX (0x41 :: 0x04 :: (x ++ y)) = x := List.take_left' hx
  have hreportedY : reportedY (0x41 :: 0x04 :: (x ++ y)) = y := by
    change ((x ++ y).drop 32).take 32 = y
    rw [List.drop_left' hx, List.take_of_length_le hy.le]
  have hcurve : P256.OnCurve (Bytes.ofBigEndian x) (Bytes.ofBigEndian y) := by
    rw [Bytes.ofBigEndian_bigEndian (by decide), Bytes.ofBigEndian_bigEndian (by decide)]
    exact ⟨by decide, by decide, by decide⟩
  -- The exchange comes to the response in the script.
  have hfits : message.length ≤ Frame.maxMessage := by
    simp [message, hx, hy, Frame.maxMessage]
  have hanswered : Exchange.answered Timing.default.readTimeout (some (.raw (Frame.wire message)))
      = .ok ⟨0x41 :: 0x04 :: (x ++ y), Status.success⟩ := by
    rw [Exchange.answered_wire _ hfits]
    exact congrArg (Except.mapError Error.framing)
      (Exchange.ofMessage_append (0x41 :: 0x04 :: (x ++ y)) Status.success)
  have hdeadline : Timing.default.readTimeout ≠ .zero := by
    decide
  rcases Exchange.run_simulated (s := token) rfl rfl hdeadline
    (Token.keyRequest (Identity.ofHost "host")) with ⟨left, hrun⟩
  have hhead : token.script.head? = some (.raw (Frame.wire message)) := rfl
  rw [hhead, hanswered] at hrun
  rcases (after_keys Simulator.queue ⟨token, Timing.default, []⟩ []).1 _ _ _ _ _ hrun with
    ⟨outcome, hpublicKey, hserves, _⟩
  have hpoint := P256.hasPoint_iff.2 ⟨_, hcurve⟩
  rw [← hreportedX] at hpoint
  have hlength : 66 ≤ (0x41 :: 0x04 :: (x ++ y)).length := by
    simp [hx, hy]
  rcases hserves.served (Or.inl rfl) hlength hpoint with ⟨key, rfl, y', hkey, _, hsame⟩
  refine ⟨key, _, hpublicKey, ?_⟩
  have hy' : y' = y := by
    rw [← hreportedY]
    apply hsame
    rw [hreportedX, hreportedY]
    exact hcurve
  rw [hreportedX, hy'] at hkey
  exact hkey

end Agent

end TokenAgent
