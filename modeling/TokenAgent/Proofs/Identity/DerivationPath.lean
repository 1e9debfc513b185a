import TokenAgent.Identity.DerivationPath
import TokenAgent.Proofs.Wire

/-!
# What a derivation path is made of

A digest has 32 bytes, so there are always four components to be taken from it, and the wire form
of a path has 21 bytes.  The purpose stands in the first component only, and there in one byte;
the other components are words of the digest with their top bit forced.

* `DerivationPath.toNat_hardened` — what forcing the top bit makes of a word;
* `DerivationPath.getElem?_components` — where in the digest a component comes from;
* `DerivationPath.read_toBytes` — the wire form tells the components;
* `DerivationPath.ofIdentity_tells` — all this of the paths of an identity, and what of the
  identity they depend on.
-/

namespace TokenAgent

theorem Sha256.length_digest (message : Bytes) : (Sha256.digest message).length = 32 := by
  simp [Sha256.digest, Sha256.State.words]

namespace DerivationPath

variable (canonical : String) (purpose : Purpose)

/-! ## Sizes -/

theorem length_components : (ofCanonical canonical purpose).components.length = 5 := by
  have hwords : (Bytes.chunks 4 (digestOf canonical)).length = 8 := by
    rw [Bytes.length_chunks (by decide), digestOf, Sha256.length_digest]
  rw [ofCanonical, List.length_cons, List.length_map, List.length_take, hwords, digestComponents]
  rfl

/-- A count, and four bytes for each component. -/
theorem length_toBytes_eq (path : DerivationPath) :
    path.toBytes.length = 1 + 4 * path.components.length := by
  rw [toBytes, List.length_cons, List.length_flatMap]
  simp only [Bytes.length_bigEndian, List.map_const', List.sum_replicate_nat]
  rw [Nat.add_comm, Nat.mul_comm]

theorem length_toBytes_ofCanonical : (ofCanonical canonical purpose).toBytes.length = 21 := by
  rw [length_toBytes_eq, length_components]

/-! ## Components -/

/-- The top bit is forced, and the other bits are those of the word. -/
theorem toNat_hardened (word : UInt32) :
    (hardened ||| word).toNat = 2 ^ 31 + word.toNat % 2 ^ 31 := by
  have hlow : word.toNat % 2 ^ 31 < 2 ^ 31 := Nat.mod_lt _ (by decide)
  have hhigh : word.toNat / 2 ^ 31 = 0 ∨ word.toNat / 2 ^ 31 = 1 := by
    have hword : word.toNat < 2 ^ 32 := word.toNat_lt
    omega
  have hsplit : word.toNat
      = 2 ^ 31 * (word.toNat / 2 ^ 31) ||| word.toNat % 2 ^ 31 := by
    rw [← Nat.two_pow_add_eq_or_of_lt hlow, Nat.div_add_mod]
  -- Whether the word had its top bit or not, it has it afterwards.
  have htop : 2 ^ 31 ||| 2 ^ 31 * (word.toNat / 2 ^ 31) = 2 ^ 31 := by
    rcases hhigh with h | h
    · rw [h, Nat.mul_zero, Nat.or_zero]
    · rw [h, Nat.mul_one, Nat.or_self]
  calc
    (hardened ||| word).toNat = 2 ^ 31 ||| word.toNat := UInt32.toNat_or hardened word
    _ = 2 ^ 31 ||| (2 ^ 31 * (word.toNat / 2 ^ 31) ||| word.toNat % 2 ^ 31) := by rw [← hsplit]
    _ = 2 ^ 31 ||| word.toNat % 2 ^ 31 := by rw [← Nat.or_assoc, htop]
    _ = 2 ^ 31 + word.toNat % 2 ^ 31 := by
      simpa using (Nat.two_pow_add_eq_or_of_lt hlow 1).symm

theorem top_bit_of_mem_components {c : UInt32}
    (h : c ∈ (ofCanonical canonical purpose).components) : 2 ^ 31 ≤ c.toNat := by
  have hforced : ∃ word, c = hardened ||| word := by
    rw [ofCanonical] at h
    rcases List.mem_cons.1 h with rfl | hlater
    · exact ⟨purpose.number, rfl⟩
    · rcases List.mem_map.1 hlater with ⟨block, _, rfl⟩
      exact ⟨_, rfl⟩
  rcases hforced with ⟨word, rfl⟩
  rw [toNat_hardened]
  exact Nat.le_add_right _ _

theorem ofLittleEndian_lt (bs : Bytes) : Bytes.ofLittleEndian bs < 256 ^ bs.length := by
  induction bs with
  | nil => decide
  | cons b bs ih =>
      have hb : b.toNat < 256 := b.toNat_lt
      have hstep : Bytes.ofLittleEndian (b :: bs) = b.toNat + 256 * Bytes.ofLittleEndian bs := rfl
      rw [hstep, List.length_cons, Nat.pow_succ]
      omega

/-- Four bytes of the digest, least significant first. -/
def digestWord (canonical : String) (k : Nat) : Nat :=
  Bytes.ofLittleEndian (((digestOf canonical).drop (4 * k)).take 4)

theorem digestWord_lt (k : Nat) : digestWord canonical k < 2 ^ 32 := by
  refine Nat.lt_of_lt_of_le (ofLittleEndian_lt _) ?_
  exact Nat.pow_le_pow_right (by decide) (List.length_take_le 4 _)

/-- Behind the purpose, the components are the words of the digest. -/
theorem getElem?_components {k : Nat} (hk : k < 4) :
    (ofCanonical canonical purpose).components[k + 1]?
      = some (hardened ||| UInt32.ofNat (digestWord canonical k)) := by
  have hlength : (digestOf canonical).length = 32 := Sha256.length_digest _
  have hinside : 4 * k < (digestOf canonical).length := by omega
  have hblock : ((Bytes.chunks 4 (digestOf canonical)).take digestComponents)[k]?
      = some (((digestOf canonical).drop (4 * k)).take 4) := by
    rw [digestComponents, List.getElem?_take_of_lt hk, Bytes.getElem?_chunks (by decide) hinside]
  rw [ofCanonical, List.getElem?_cons_succ, List.getElem?_map, hblock]
  rfl

/-! ## The wire form -/

/-- Read a path: the number of its components, then the components. -/
def reader : Reader (List UInt32) := do
  let count ← Reader.byte
  Reader.counted Reader.uint32 count.toNat

theorem read_toBytes {path : DerivationPath} (h : path.components.length < 256) (rest : Bytes) :
    reader (path.toBytes ++ rest) = .ok path.components rest := by
  have hcount : (UInt8.ofNat path.components.length).toNat = path.components.length :=
    UInt8.toNat_ofNat_of_lt' h
  have hword : ∀ c ∈ path.components, ∀ rest,
      Reader.uint32 (Bytes.bigEndian 4 c.toNat ++ rest) = .ok c rest :=
    fun c _ rest => Reader.uint32_append rest c
  rw [reader, toBytes, List.cons_append, Running.bind_ok (Reader.byte_cons _ _), hcount]
  exact Reader.counted_append hword rest

/-- The purposes of a key differ in one byte. -/
def purposeByte : Purpose → UInt8
  | .signing => 0x0d
  | .keyAgreement => 0x11

theorem toBytes_ofCanonical :
    ∃ later, ∀ purpose, (ofCanonical canonical purpose).toBytes
      = [0x05, 0x80, 0x00, 0x00, purposeByte purpose] ++ later := by
  refine ⟨(ofCanonical canonical .signing).components.tail.flatMap
    fun c => Bytes.bigEndian 4 c.toNat, ?_⟩
  intro purpose
  have hfirst : Bytes.bigEndian 4 (hardened ||| purpose.number).toNat
      = [0x80, 0x00, 0x00, purposeByte purpose] := by
    cases purpose <;> decide
  have hcount : UInt8.ofNat (ofCanonical canonical purpose).components.length = 0x05 := by
    rw [length_components]
    rfl
  rw [toBytes, hcount, ofCanonical, List.flatMap_cons, hfirst]
  rfl

theorem head?_toBytes : (ofCanonical canonical purpose).toBytes.head? = some 5 := by
  rcases toBytes_ofCanonical canonical with ⟨later, hbytes⟩
  rw [hbytes]
  rfl

/-- The two paths of a key differ in the byte that tells the purpose. -/
theorem getElem?_toBytes_ne_iff (k : Nat) :
    (ofCanonical canonical .signing).toBytes[k]? ≠ (ofCanonical canonical .keyAgreement).toBytes[k]?
      ↔ k = 4 := by
  rcases toBytes_ofCanonical canonical with ⟨later, hbytes⟩
  rw [hbytes, hbytes]
  match k with
  | 0 | 1 | 2 | 3 => simp [purposeByte]
  | 4 => simp [purposeByte]
  | k + 5 => simp

/-! ## Paths of identities -/

/-- The protocol that goes without saying may be named. -/
theorem canonical_of_default {i : Identity} (h : i.protocol = "") :
    Identity.canonical { i with protocol := Identity.defaultProtocol } = i.canonical := by
  rw [Identity.canonical, Identity.canonical, h]
  rfl

/-- The wire form of a path has 21 bytes: the number five, and five components that are read back
from it.  All have their top bit set.  The first tells the purpose, and the two purposes differ
in byte 4 of the wire form and nowhere else; the others are the words of the digest, least
significant byte first, with the top bit forced.  The digest is that of four zeros and the
canonical text, and the path depends on nothing else of the identity: not on its name, nor on the
key that is known of it, nor on whether the default protocol is named. -/
theorem ofIdentity_tells (i : Identity) :
    (∀ purpose,
      let path : DerivationPath := ofIdentity i purpose
      let digest : Bytes := Sha256.digest ([0, 0, 0, 0] ++ Utf8.encode i.canonical)
      path.toBytes.length = 21 ∧ path.toBytes.head? = some 5 ∧ path.components.length = 5 ∧
      reader path.toBytes = .ok path.components [] ∧
      (∀ c ∈ path.components, 2 ^ 31 ≤ c.toNat) ∧
      ∀ k < 4, path.components[k + 1]?.map UInt32.toNat
        = some (2 ^ 31 + Bytes.ofLittleEndian ((digest.drop (4 * k)).take 4) % 2 ^ 31)) ∧
    (ofIdentity i .signing).components.head? = some 0x8000000d ∧
    (ofIdentity i .keyAgreement).components.head? = some 0x80000011 ∧
    (∀ k, (ofIdentity i .signing).toBytes[k]? ≠ (ofIdentity i .keyAgreement).toBytes[k]? ↔
      k = 4) ∧
    ∀ purpose,
      (∀ j : Identity, j.canonical = i.canonical → ofIdentity j purpose = ofIdentity i purpose) ∧
      (∀ name key, ofIdentity { i with name := name, key := key } purpose = ofIdentity i purpose) ∧
      (i.protocol = "" →
        ofIdentity { i with protocol := "ssh" } purpose = ofIdentity i purpose) := by
  refine ⟨?_, rfl, rfl, getElem?_toBytes_ne_iff i.canonical, ?_⟩
  · intro purpose path digest
    have hlength : path.components.length = 5 := length_components i.canonical purpose
    have hread : reader (path.toBytes ++ []) = .ok path.components [] :=
      read_toBytes (by rw [hlength]; decide) []
    rw [List.append_nil] at hread
    refine ⟨length_toBytes_ofCanonical i.canonical purpose, head?_toBytes i.canonical purpose,
      hlength, hread, ?_, ?_⟩
    · intro c hmem
      exact top_bit_of_mem_components i.canonical purpose hmem
    · intro k hk
      have hword : path.components[k + 1]?
          = some (hardened ||| UInt32.ofNat (digestWord i.canonical k)) :=
        getElem?_components i.canonical purpose hk
      rw [hword, Option.map_some, toNat_hardened,
        UInt32.toNat_ofNat_of_lt' (digestWord_lt i.canonical k)]
      rfl
  · intro purpose
    refine ⟨?_, fun name key => rfl, ?_⟩
    · intro j hsame
      exact congrArg (ofCanonical · purpose) hsame
    · intro hprotocol
      exact congrArg (ofCanonical · purpose) (canonical_of_default hprotocol)

end DerivationPath

end TokenAgent
