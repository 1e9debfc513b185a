import TokenAgent.Proofs.Key.Point
import TokenAgent.Proofs.Token.KeyRequest

/-!
# Keys that tokens report

What becomes of a response to a request for a key is told by its status, its length and the curve
(`Token.Serves`).  A response that is taken is a key if a point lies above the `x` in it, and the
key is that point (`Token.serves_keyOf`).
-/

namespace TokenAgent

/-- Carried out, or carried out with more to come. -/
def Status.Accepted (s : Status) : Prop :=
  s.code.toNat = 0x9000 ∨ s.code.toNat / 256 = 0x61 ∨ s.code.toNat / 256 = 0x6C

theorem Status.isMoreData_iff (s : Status) :
    s.isMoreData = true ↔ s.code.toNat / 256 = 0x61 ∨ s.code.toNat / 256 = 0x6C := by
  -- The mask clears the low byte and keeps the high one.
  have hlow : (s.code &&& 0xFF00).toNat % 2 ^ 8 = 0 := by
    rw [UInt16.toNat_and, Nat.and_mod_two_pow]
    exact Nat.and_zero _
  have hhigh : (s.code &&& 0xFF00).toNat / 2 ^ 8 = s.code.toNat / 2 ^ 8 := by
    have hmask : (0xFF00 : UInt16).toNat / 2 ^ 8 = 2 ^ 8 - 1 := rfl
    have hcode : s.code.toNat < 2 ^ 16 := s.code.toNat_lt
    rw [UInt16.toNat_and, Nat.and_div_two_pow, hmask, Nat.and_two_pow_sub_one_eq_mod]
    omega
  have hsixOne : (0x6100 : UInt16).toNat = 0x6100 := rfl
  have hsixC : (0x6C00 : UInt16).toNat = 0x6C00 := rfl
  simp only [isMoreData, Bool.or_eq_true, beq_iff_eq, ← UInt16.toNat_inj, hsixOne, hsixC]
  omega

theorem Status.accepted_iff (s : Status) : (s.isSuccess || s.isMoreData) = true ↔ s.Accepted := by
  have hsuccess : s.isSuccess = true ↔ s.code.toNat = 0x9000 := by
    rw [isSuccess, beq_iff_eq, success, Status.mk.injEq, ← UInt16.toNat_inj]
    rfl
  rw [Bool.or_eq_true, hsuccess, s.isMoreData_iff, Accepted]

namespace Token

open Point Running

/-! ## Keys in payloads -/

/-- The key holds the point above the `x` of a payload whose `y` has the parity of the last byte,
and with it the point that was reported, if that is one. -/
def Reports (payload : Bytes) (key : KeyBlob) : Prop :=
  ∃ y, key.HoldsPoint (reportedX payload) y ∧
    (∀ last, payload[65]? = some last →
      Bytes.ofBigEndian y % 2 = last.toNat % 2 ∨ Bytes.ofBigEndian y = 0) ∧
    (P256.OnCurve (Bytes.ofBigEndian (reportedX payload)) (Bytes.ofBigEndian (reportedY payload)) →
      y = reportedY payload)

section Payload

variable {payload : Bytes} (t : KeyType)

theorem keyOfResponse_of_short (h : payload.length < 66) :
    keyOfResponse t payload = .error (.malformedPublicKey payload.length) := by
  rw [keyOfResponse, compressedOfResponse_of_short h]
  rfl

theorem exists_last (h : 66 ≤ payload.length) : ∃ last, payload[65]? = some last :=
  ⟨_, List.getElem?_eq_getElem h⟩

theorem keyOfResponse_of_missing (h : 66 ≤ payload.length)
    (hmissing : ¬ P256.HasPoint (Bytes.ofBigEndian (reportedX payload))) :
    keyOfResponse t payload = .error .invalidPoint := by
  rcases exists_last h with ⟨last, hlast⟩
  rcases compressedOfResponse_of_some hlast with ⟨odd, _, hcompressed⟩
  have hlift : P256.liftX? (Bytes.ofBigEndian (reportedX payload)) odd = none :=
    P256.liftX?_eq_none_iff.2 hmissing
  have hpoint := decompress_of_none (length_reportedX h) hlift
  simp only [keyOfResponse, hcompressed, bind, Except.bind, hpoint]

theorem exists_reports (h : 66 ≤ payload.length)
    (hpoint : P256.HasPoint (Bytes.ofBigEndian (reportedX payload))) :
    ∃ key, keyOfResponse t payload = .ok key ∧ Reports payload key := by
  rcases exists_last h with ⟨last, hlast⟩
  rcases compressedOfResponse_of_some hlast with ⟨odd, hodd, hcompressed⟩
  rcases P256.exists_liftX? hpoint odd with ⟨y, hlift⟩
  rcases P256.liftX?_eq_some_iff.1 hlift with ⟨hcurve, hparity⟩
  rw [hodd] at hparity
  -- A coordinate is below the prime, so it fits its 32 bytes.
  have hvalue : Bytes.ofBigEndian (Bytes.bigEndian 32 y) = y := by
    apply Bytes.ofBigEndian_bigEndian
    have hp : P256.p < 256 ^ 32 := by decide
    exact hcurve.2.1.trans hp
  have hkey : keyOfResponse t payload
      = .ok (.ofCoordinates t.sshName t.curveName ⟨reportedX payload, Bytes.bigEndian 32 y⟩) := by
    have hpoint := decompress_of_some (length_reportedX h) hlift
    simp only [keyOfResponse, hcompressed, bind, Except.bind, hpoint]
    rfl
  refine ⟨_, hkey, Bytes.bigEndian 32 y, ?_, ?_, ?_⟩
  · rw [← hvalue] at hcurve
    cases t with
    | nistp256 =>
        exact KeyBlob.holdsPoint_ofCoordinates (length_reportedX h) (Bytes.length_bigEndian 32 y)
          hcurve
  · intro last' hlast'
    have hsame : last = last' := Option.some.inj (hlast.symm.trans hlast')
    rw [hvalue, ← hsame]
    exact hparity
  · -- The reported point has this parity too, and there is no other above `x`.
    intro hreported
    have hy : y = Bytes.ofBigEndian (reportedY payload) :=
      P256.onCurve_unique hcurve hreported hparity (Or.inl (parity_reportedY hlast))
    have hbytes := Bytes.bigEndian_ofBigEndian (reportedY payload)
    rw [length_reportedY h, ← hy] at hbytes
    exact hbytes

end Payload

/-! ## Keys in responses -/

/-- What becomes of a response to a request for a key. -/
structure Serves (response : Response) (outcome : Except Error KeyBlob) : Prop where
  served : response.status.Accepted → 66 ≤ response.payload.length →
    P256.HasPoint (Bytes.ofBigEndian (reportedX response.payload)) →
    ∃ key, outcome = .ok key ∧ Reports response.payload key
  missing : response.status.Accepted → 66 ≤ response.payload.length →
    ¬ P256.HasPoint (Bytes.ofBigEndian (reportedX response.payload)) →
    outcome = .error (.codec .invalidPoint)
  short : response.status.Accepted → response.payload.length < 66 →
    outcome = .error (.codec (.malformedPublicKey response.payload.length))
  refused : ¬ response.status.Accepted → outcome = .error (.status response.status)

theorem keyOf_of_accepted (i : Identity) {response : Response} (h : response.status.Accepted) :
    keyOf i response = (keyOfResponse i.keyType response.payload).mapError .codec := by
  rw [keyOf, if_pos (response.status.accepted_iff.2 h)]

theorem serves_keyOf (i : Identity) (response : Response) :
    Serves response (keyOf i response) where
  served haccepted hlength hpoint := by
    rcases exists_reports i.keyType hlength hpoint with ⟨key, hkey, hreports⟩
    rw [keyOf_of_accepted i haccepted, hkey]
    exact ⟨key, rfl, hreports⟩
  missing haccepted hlength hmissing := by
    rw [keyOf_of_accepted i haccepted, keyOfResponse_of_missing i.keyType hlength hmissing]
    rfl
  short haccepted hlength := by
    rw [keyOf_of_accepted i haccepted, keyOfResponse_of_short i.keyType hlength]
    rfl
  refused hrefused := by
    rw [keyOf, if_neg fun haccepted => hrefused (response.status.accepted_iff.1 haccepted)]

/-- The four cases leave one way to a key. -/
theorem Serves.ok_iff {response : Response} {outcome : Except Error KeyBlob}
    (h : Serves response outcome) :
    (∃ key, outcome = .ok key) ↔ response.status.Accepted ∧ 66 ≤ response.payload.length ∧
      P256.HasPoint (Bytes.ofBigEndian (reportedX response.payload)) := by
  constructor
  · rintro ⟨key, rfl⟩
    by_contra hnot
    by_cases haccepted : response.status.Accepted
    · by_cases hlength : 66 ≤ response.payload.length
      · have hmissing := h.missing haccepted hlength fun hpoint =>
          hnot ⟨haccepted, hlength, hpoint⟩
        cases hmissing
      · have hshort := h.short haccepted (Nat.lt_of_not_le hlength)
        cases hshort
    · have hrefused := h.refused haccepted
      cases hrefused
  · rintro ⟨haccepted, hlength, hpoint⟩
    rcases h.served haccepted hlength hpoint with ⟨key, hkey, _⟩
    exact ⟨key, hkey⟩

theorem Serves.reports {response : Response} {key : KeyBlob} (h : Serves response (.ok key)) :
    Reports response.payload key := by
  rcases h.ok_iff.1 ⟨key, rfl⟩ with ⟨haccepted, hlength, hpoint⟩
  rcases h.served haccepted hlength hpoint with ⟨key', hkey, hreports⟩
  injection hkey with hsame
  rwa [hsame]

variable {σ : Type} [Transport σ]

theorem publicKey_of_run {timing : Timing} {i : Identity} {response : Response} {s s' : σ}
    (h : Exchange.run timing (keyRequest i) s = .ok response s') :
    publicKey timing i s = settled (keyOf i response) s' := by
  rw [publicKey_eq, Exchange.perform, h]
  rfl

/-- A key that was found is in what the token responded. -/
theorem isPoint_of_publicKey {timing : Timing} {i : Identity} {key : KeyBlob} {s s' : σ}
    (h : publicKey timing i s = .ok key s') : key.IsPoint := by
  cases hrun : Exchange.run timing (keyRequest i) s with
  | error e t =>
      rw [publicKey_eq, Exchange.perform, hrun] at h
      cases h
  | ok response t =>
      have hserves := serves_keyOf i response
      rw [publicKey_of_run hrun] at h
      cases hkey : keyOf i response with
      | error e =>
          rw [hkey] at h
          cases h
      | ok key' =>
          rw [hkey] at h hserves
          cases h
          rcases hserves.reports with ⟨y, hpoint, _⟩
          exact ⟨_, y, hpoint⟩

end Token

end TokenAgent
