import TokenAgent.Proofs.Agent.Answer
import TokenAgent.Proofs.Agent.Run
import TokenAgent.Proofs.Token.KeyRequest

/-!
# Asking for all keys

The keys are asked for one after the other, and a request that fails is followed by the next one
like any other.  Each request takes one entry of the script, so the reply for an identity is the
one at the position of the identity, whatever became of the requests before.

* `Agent.Loading` — an agent that has asked for some of the keys; a request for the next one
  keeps it so (`Agent.Loading.next`);
* `Agent.loadKeys_simulated` — what is sent, what is kept, and how many keys are known then.
-/

namespace TokenAgent

namespace Agent

open Exchange Running Token

variable {a b : Agent Simulator} {m : Nat} {i : Identity}

/-- What a request for the key of an identity comes to if it takes entry number `k` of the
script. -/
def fetched (a : Agent Simulator) (k : Nat) (i : Identity) : Except Error KeyBlob :=
  Token.fetched a.timing.readTimeout a.token.chunkSize a.token.script[k]? i

/-- The first `m` identities after their keys were asked for, and the others as they were. -/
def loadedTo (a : Agent Simulator) (m : Nat) : List Identity :=
  a.identities.mapIdx fun k i => if k < m then i.keeping (a.fetched k i) else i

/-- The agent `b` has asked for the keys of the first `m` identities of `a`. -/
structure Loading (a : Agent Simulator) (m : Nat) (b : Agent Simulator) : Prop where
  ready : Ready b.token
  timing : b.timing = a.timing
  chunkSize : b.token.chunkSize = a.token.chunkSize
  script : b.token.script = a.token.script.drop m
  commands : b.token.commands
    = a.token.commands ++ (a.identities.take m).map fun i => (keyRequest i).toBytes
  identities : b.identities = a.loadedTo m

/-! ## One identity more -/

theorem loadedTo_zero (a : Agent Simulator) : a.loadedTo 0 = a.identities := by
  apply List.ext_getElem?
  intro k
  simp [loadedTo]

/-- The identity at position `m` has not been touched by the requests before it. -/
theorem getElem?_loadedTo (a : Agent Simulator) (m : Nat) :
    (a.loadedTo m)[m]? = a.identities[m]? := by
  simp [loadedTo]

/-- What the next request comes to belongs at its position. -/
theorem modify_loadedTo (h : a.identities[m]? = some i) :
    ((a.loadedTo m).modify m fun i' => i'.keeping (a.fetched m i)) = a.loadedTo (m + 1) := by
  apply List.ext_getElem?
  intro k
  rw [List.getElem?_modify, loadedTo, loadedTo, List.getElem?_mapIdx, List.getElem?_mapIdx]
  by_cases hk : m = k
  · subst hk
    simp only [h, Option.map_some, Option.map_eq_map, Nat.lt_irrefl, Nat.lt_succ_self, if_true,
      if_false]
  · -- At any other position nothing is new.
    have hearlier : k < m + 1 ↔ k < m := by omega
    cases a.identities[k]? with
    | none => rfl
    | some j => simp only [hk, hearlier, Option.map_some, Option.map_eq_map, if_false]

theorem loadedTo_length (a : Agent Simulator) :
    a.loadedTo a.identities.length = a.identities.mapIdx fun k i => i.keeping (a.fetched k i) := by
  apply List.ext_getElem?
  intro k
  rw [loadedTo, List.getElem?_mapIdx, List.getElem?_mapIdx]
  cases hat : a.identities[k]? with
  | none => rfl
  | some i =>
      rcases List.getElem?_eq_some_iff.1 hat with ⟨hk, _⟩
      rw [Option.map_some, Option.map_some, if_pos hk]

/-! ## All of them -/

theorem Loading.start (h : Ready a.token) : Loading a 0 a where
  ready := h
  timing := rfl
  chunkSize := rfl
  script := rfl
  commands := (List.append_nil _).symm
  identities := (loadedTo_zero a).symm

/-- A request for the next key takes the next entry of the script, whatever it comes to. -/
theorem Loading.next (h : Loading a m b) (hat : a.identities[m]? = some i) :
    ∃ b', loadKey m b = settled (a.fetched m i) b' ∧ Loading a (m + 1) b' := by
  have hat' : b.identities[m]? = some i := by
    rw [h.identities, getElem?_loadedTo, hat]
  rcases publicKey_simulated h.ready b.timing i with ⟨left, hkey⟩
  have hfetched : Token.fetched b.timing.readTimeout b.token.chunkSize b.token.script.head? i
      = a.fetched m i := by
    rw [h.timing, h.chunkSize, h.script, List.head?_drop, fetched]
  rw [hfetched] at hkey
  refine ⟨_, loadKey_settled hat' (publicKey_of_settled hkey), ?_⟩
  refine ⟨h.ready, h.timing, h.chunkSize, ?_, ?_, ?_⟩
  · change b.token.script.tail = a.token.script.drop (m + 1)
    rw [h.script, List.tail_drop]
  · change b.token.commands ++ [(keyRequest i).toBytes] = _
    rw [h.commands, List.take_add_one, hat, List.map_append, List.append_assoc]
    rfl
  · change (b.identities.modify m fun i' => i'.keeping (a.fetched m i)) = a.loadedTo (m + 1)
    rw [h.identities, modify_loadedTo hat]

theorem loading_loadEach (h : Ready a.token) (hm : m ≤ a.identities.length) :
    Loading a m (a.loadEach (List.range m)) := by
  induction m with
  | zero => exact .start h
  | succ m ih =>
      have hat : a.identities[m]? = some a.identities[m] := List.getElem?_eq_getElem hm
      rcases (ih (Nat.le_of_lt hm)).next hat with ⟨b, hload, hb⟩
      rw [loadEach_range_succ hload]
      exact hb

/-! ## The number of keys -/

section Count

variable {σ : Type}

theorem keyedCount_eq (a : Agent σ) :
    a.keyedCount = (a.identities.filter fun i => i.key.isSome).length :=
  List.countP_eq_length_filter

theorem length_keyed (a : Agent σ) : a.keyed.length = a.keyedCount := by
  rw [keyed, keyedCount, List.length_filterMap_eq_countP]
  simp only [Option.isSome_map]

end Count

/-- Asking for all keys sends one command for each identity, in the order of the list, and the
command names the path of the identity.  The request for an identity comes to what the entry of
the script at its position says, in whatever state the requests before it left the agent.  A key
that was found is kept; an identity whose request failed has the key it had.  The number of keys
is then the same in all places. -/
theorem loadKeys_simulated (a : Agent Simulator) (hworks : a.token.failWrites = false)
    (hidle : a.token.incoming = .empty) :
    a.loadKeys.2.token.commands = a.token.commands ++ a.identities.map (fun i =>
      [0x80, 0x02, 0x00, 0x01, 0x15] ++ (DerivationPath.ofIdentity i .signing).toBytes) ∧
    (∀ k i, a.identities[k]? = some i → loadKey k (a.loadEach (List.range k))
      = settled (a.fetched k i) (a.loadEach (List.range (k + 1)))) ∧
    a.loadKeys.2.identities = a.identities.mapIdx (fun k i =>
      { i with key := (a.fetched k i).toOption.or i.key }) ∧
    ∃ count, count = (a.loadKeys.2.identities.filter fun i => i.key.isSome).length ∧
      a.loadKeys.1 = count ∧ a.loadKeys.2.keyedCount = count ∧
      a.loadKeys.2.keyed.length = count ∧
      (a.loadKeys.2.identitiesAnswer.drop 5).take 4 = Bytes.bigEndian 4 count ∧
      (count < 2 ^ 32 →
        Bytes.ofBigEndian ((a.loadKeys.2.identitiesAnswer.drop 5).take 4) = count) := by
  have hready : Ready a.token := ⟨hworks, hidle⟩
  have hall : Loading a a.identities.length a.loadKeys.2 := loading_loadEach hready (Nat.le_refl _)
  refine ⟨?_, ?_, ?_, ?_⟩
  · rw [hall.commands, List.take_length]
    simp only [toBytes_keyRequest]
  · intro k i hat
    rcases List.getElem?_eq_some_iff.1 hat with ⟨hk, _⟩
    rcases (loading_loadEach hready (Nat.le_of_lt hk)).next hat with ⟨b, hload, _⟩
    rw [loadEach_range_succ hload]
    exact hload
  · rw [hall.identities, loadedTo_length]
    rfl
  · have hkeyed : a.loadKeys.2.keyed.length = a.loadKeys.2.keyedCount := length_keyed _
    have hfield := count_identitiesAnswer a.loadKeys.2
    rw [hkeyed] at hfield
    refine ⟨a.loadKeys.2.keyedCount, keyedCount_eq _, rfl, rfl, hkeyed, hfield, ?_⟩
    intro hfits
    rw [hfield, Bytes.ofBigEndian_bigEndian hfits]

/-- The first request is not answered, and the key that its identity has stays; the second
identity gets the key that was meant for it. -/
theorem loadKeys_simulated_silence :
    let x := Bytes.bigEndian 32
      0x6b17d1f2e12c4247f8bce6e563a440f277037d812deb33a0f4a13945d898c296
    let y := Bytes.bigEndian 32
      0x4fe342e2fe1a7f9b8ee7eb4a7c0f9e162bce33576b315ececbb6406837bf51f5
    let message := 0x41 :: 0x04 :: (x ++ y) ++ Bytes.bigEndian 2 0x9000
    let token := { Simulator.fresh with script := [.silence, .raw (Frame.wire message)] }
    let one : Identity := { Identity.ofHost "one" with key := some ⟨[0x0A]⟩ }
    let two := Identity.ofHost "two"
    let a : Agent Simulator := ⟨token, Timing.default, [one, two]⟩
    let key := KeyBlob.ofCoordinates "ecdsa-sha2-nistp256" "nistp256" ⟨x, y⟩
    token.failWrites = false ∧ token.incoming = .empty ∧
    a.loadKeys.2.identities = [one, { two with key := some key }] ∧ a.loadKeys.1 = 2 ∧
    Bytes.ofBigEndian ((a.loadKeys.2.identitiesAnswer.drop 5).take 4) = 2 ∧
    a.loadKeys.2.token.commands = [(keyRequest one).toBytes, (keyRequest two).toBytes] := by
  intro x y message token one two a key
  have hfits : (0x41 :: 0x04 :: (x ++ y)).length + 2 ≤ Frame.maxMessage := by
    simp [x, y, Frame.maxMessage]
  have hdeadline : Timing.default.readTimeout ≠ .zero := by
    decide
  have hone : a.fetched 0 one = .error (.transport (.timeout Timing.default.readTimeout)) := rfl
  have htwo : a.fetched 1 two = .ok key := by
    have hreply : a.token.script[1]? = some (.raw (Frame.wire message)) := rfl
    have hanswered : answered Timing.default.readTimeout (some (.raw (Frame.wire message)))
        = .ok ⟨0x41 :: 0x04 :: (x ++ y), .success⟩ :=
      answered_response _ hfits Status.success
    have hkey : keyOf two ⟨0x41 :: 0x04 :: (x ++ y), .success⟩ = .ok key := by
      decide +kernel
    rw [fetched, Token.fetched, map_inTime hdeadline, hreply, hanswered]
    exact hkey
  rcases loadKeys_simulated a rfl rfl with
    ⟨hcommands, _, hidentities, count, hcount, hloaded, _, _, _, hfield⟩
  have hkeys : a.loadKeys.2.identities = [one, { two with key := some key }] := by
    rw [hidentities]
    change [{ one with key := (a.fetched 0 one).toOption.or one.key },
      { two with key := (a.fetched 1 two).toOption.or two.key }] = _
    rw [hone, htwo]
    rfl
  have htwoKeys : count = 2 := by
    rw [hcount, hkeys]
    rfl
  subst htwoKeys
  refine ⟨rfl, rfl, hkeys, hloaded, hfield (by decide), ?_⟩
  rw [hcommands, toBytes_keyRequest, toBytes_keyRequest]
  rfl

end Agent

end TokenAgent
