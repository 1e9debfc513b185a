import Mathlib.Algebra.BigOperators.Group.List.Basic
import Mathlib.Data.List.Flatten
import TokenAgent.Proofs.Agent.Listing

/-!
# The answer that lists the keys

A client reads the answer from front to back: a length, an opcode, a number, and as many entries
as the number says, each of which is a key and a comment in fields of their own (`Listing.read`).
It reads what was listed and nothing is left over (`Listing.read_envelope`).  A key may look like
a length and a comment may be in any script; they stand behind their own lengths, so neither is
taken for something else.

* `Agent.identitiesAnswer_lists` — the entries of the answer are the identities that have a key.
-/

namespace TokenAgent

/-- A list of keys as a client reads it. -/
structure Listing where
  declared : UInt32
  opcode : UInt8
  count : UInt32
  /-- The keys, each with its comment. -/
  entries : List (Bytes × Bytes)
  deriving DecidableEq, Repr

namespace Listing

open Running

/-- A key and its comment. -/
def readEntry : Reader (Bytes × Bytes) := do
  let key ← Reader.field
  let comment ← Reader.field
  return (key, comment)

/-- A whole answer. -/
def read : Reader Listing := do
  let declared ← Reader.uint32
  let opcode ← Reader.byte
  let count ← Reader.uint32
  let entries ← Reader.counted readEntry count.toNat
  return ⟨declared, opcode, count, entries⟩

/-! ## Entries -/

/-- The wire form of an entry. -/
def writeEntry (entry : Bytes × Bytes) : Bytes :=
  Wire.fields [entry.1, entry.2]

section Entries

variable {entry : Bytes × Bytes} {entries : List (Bytes × Bytes)}

theorem length_writeEntry (entry : Bytes × Bytes) :
    (writeEntry entry).length = entry.1.length + entry.2.length + 8 := by
  have hparts : (writeEntry entry).length = (4 + entry.1.length) + (4 + entry.2.length) := by
    simp [writeEntry]
  omega

theorem readEntry_append (h : (writeEntry entry).length < 2 ^ 32) (rest : Bytes) :
    readEntry (writeEntry entry ++ rest) = .ok entry rest := by
  rw [length_writeEntry] at h
  have hkey : entry.1.length < 2 ^ 32 := by omega
  have hcomment : entry.2.length < 2 ^ 32 := by omega
  have hbytes : writeEntry entry ++ rest
      = Wire.field entry.1 ++ (Wire.field entry.2 ++ rest) := by
    simp [writeEntry]
  have hfirst := Reader.field_eq_ok_iff.2 ⟨hkey, hbytes⟩
  have hsecond : Reader.field (Wire.field entry.2 ++ rest) = .ok entry.2 rest :=
    Reader.field_eq_ok_iff.2 ⟨hcomment, rfl⟩
  rw [readEntry, bind_ok hfirst, bind_ok hsecond]
  rfl

/-- An entry is no longer than all of them. -/
theorem length_writeEntry_le (h : entry ∈ entries) :
    (writeEntry entry).length ≤ (entries.flatMap writeEntry).length := by
  simpa using ((List.singleton_sublist.2 h).flatMap writeEntry).length_le

/-- There is no entry without bytes, so there are no more of them than bytes. -/
theorem length_le_flatMap (entries : List (Bytes × Bytes)) :
    entries.length ≤ (entries.flatMap writeEntry).length := by
  have hsome : ∀ n ∈ entries.map fun entry => (writeEntry entry).length, 1 ≤ n := by
    intro n hmem
    rcases List.mem_map.1 hmem with ⟨entry, _, rfl⟩
    rw [length_writeEntry]
    exact Nat.le_add_left 1 _
  simpa [List.length_flatMap] using List.length_le_sum_of_one_le _ hsome

end Entries

/-! ## Answers -/

/-- What stands behind the length of an answer with these entries. -/
def body (entries : List (Bytes × Bytes)) : Bytes :=
  Opcode.identitiesAnswer :: (Bytes.bigEndian 4 entries.length ++ entries.flatMap writeEntry)

section Body

variable {entries : List (Bytes × Bytes)} (h : (body entries).length < 2 ^ 32)

include h

/-- The bound of the whole is one for all of its parts. -/
theorem length_flatMap_lt : (entries.flatMap writeEntry).length < 2 ^ 32 := by
  refine Nat.lt_of_le_of_lt ?_ h
  rw [body, List.length_cons, List.length_append]
  omega

theorem count_lt : entries.length < 2 ^ 32 :=
  Nat.lt_of_le_of_lt (length_le_flatMap entries) (length_flatMap_lt h)

theorem read_envelope :
    read (Wire.envelope (body entries)) = .ok
      ⟨UInt32.ofNat (body entries).length, Opcode.identitiesAnswer, UInt32.ofNat entries.length,
        entries⟩ [] := by
  have hentry : ∀ entry ∈ entries, ∀ rest,
      readEntry (writeEntry entry ++ rest) = .ok entry rest := by
    intro entry hmem rest
    have hfits := Nat.lt_of_le_of_lt (length_writeEntry_le hmem) (length_flatMap_lt h)
    exact readEntry_append hfits rest
  have hdeclared : Reader.uint32 (Wire.envelope (body entries))
      = .ok (UInt32.ofNat (body entries).length) (body entries) :=
    Reader.uint32_bigEndian (body entries) h
  have hopcode : Reader.byte (body entries) = .ok Opcode.identitiesAnswer _ :=
    Reader.byte_cons _ _
  have hcount := Reader.uint32_bigEndian (entries.flatMap writeEntry) (count_lt h)
  have hentries := Reader.counted_append hentry []
  rw [List.append_nil] at hentries
  rw [read, bind_ok hdeclared, bind_ok hopcode, bind_ok hcount,
    UInt32.toNat_ofNat_of_lt' (count_lt h), bind_ok hentries]
  rfl

end Body

/-! ## Keys and comments -/

/-- What is written of a key and its comment. -/
def entryOf (key : KeyBlob × String) : Bytes × Bytes :=
  (key.1.bytes, Utf8.encode key.2)

theorem entryOf_injective : Function.Injective entryOf := by
  rintro ⟨⟨key⟩, comment⟩ ⟨⟨key'⟩, comment'⟩ h
  rcases Prod.mk.inj h with ⟨rfl, hcomment⟩
  have htext := congrArg Utf8.decode? hcomment
  rw [Utf8.decode?_encode, Utf8.decode?_encode] at htext
  cases htext
  rfl

theorem identities_eq (keys : List (KeyBlob × String)) :
    Answer.identities keys = Wire.envelope (body (keys.map entryOf)) := by
  rw [Answer.identities, body, List.length_map, List.flatMap_map]
  rfl

/-- Two lists of keys with one answer are the same. -/
theorem identities_injective {keys keys' : List (KeyBlob × String)}
    (h : (body (keys.map entryOf)).length < 2 ^ 32)
    (h' : (body (keys'.map entryOf)).length < 2 ^ 32)
    (hsame : Answer.identities keys' = Answer.identities keys) : keys' = keys := by
  have hread := read_envelope h
  rw [← identities_eq, ← hsame, identities_eq, read_envelope h'] at hread
  injection hread with hlisting _
  injection hlisting with _ _ _ hentries
  exact List.map_injective_iff.2 entryOf_injective hentries

end Listing

namespace Agent

variable {σ : Type}

theorem listed_eq (a : Agent σ) :
    a.listed = a.identities.filterMap fun i => i.key.map fun key => (key, i.canonical) := by
  simp only [listed, keyed, List.map_filterMap, Option.map_map, Function.comp_def]

theorem identitiesAnswer_eq (a : Agent σ) :
    a.identitiesAnswer = Wire.envelope (Listing.body (a.listed.map Listing.entryOf)) :=
  Listing.identities_eq a.listed

theorem drop_identitiesAnswer (a : Agent σ) :
    a.identitiesAnswer.drop 4 = Listing.body (a.listed.map Listing.entryOf) := by
  rw [identitiesAnswer_eq, Wire.drop_envelope]

/-- The count stands behind the length and the opcode. -/
theorem count_identitiesAnswer (a : Agent σ) :
    (a.identitiesAnswer.drop 5).take 4 = Bytes.bigEndian 4 a.keyed.length := by
  have hcount : (a.listed.map Listing.entryOf).length = a.keyed.length := by
    simp [listed]
  rw [← List.tail_drop, drop_identitiesAnswer, Listing.body, List.tail_cons, hcount]
  exact List.take_left' (Bytes.length_bigEndian 4 _)

variable [Transport σ]

/-- A request for the keys is answered with the identities that have one, in the order of the
list and each as often as it is there.  A client reads this answer to its end: the length is that
of what follows it, the count is that of the entries, and an entry is the key and the canonical
text of its identity.  So agents that answer alike list the same keys under the same texts. -/
theorem identitiesAnswer_lists (a : Agent σ)
    (hsize : (a.identitiesAnswer.drop 4).length < 2 ^ 32) :
    (∀ message, Request.decode message = .ok .identities →
      handle message a = .ok a.identitiesAnswer a) ∧
    (∃ listing, Listing.read a.identitiesAnswer = .ok listing [] ∧
      listing.declared.toNat = (a.identitiesAnswer.drop 4).length ∧
      listing.opcode = 12 ∧
      listing.count.toNat = listing.entries.length ∧
      listing.entries = a.identities.filterMap fun i =>
        i.key.map fun key => (key.bytes, Utf8.encode i.canonical)) ∧
    ∀ {τ : Type} (b : Agent τ), b.identitiesAnswer = a.identitiesAnswer →
      (b.identities.filterMap fun i => i.key.map fun key => (key, i.canonical))
        = a.identities.filterMap fun i => i.key.map fun key => (key, i.canonical) := by
  have hbody := hsize
  rw [drop_identitiesAnswer] at hbody
  refine ⟨?_, ?_, ?_⟩
  · intro message h
    exact handle_identities h
  · have hread := Listing.read_envelope hbody
    rw [← identitiesAnswer_eq, ← drop_identitiesAnswer] at hread
    refine ⟨_, hread, UInt32.toNat_ofNat_of_lt' hsize, rfl, ?_, ?_⟩
    · exact UInt32.toNat_ofNat_of_lt' (Listing.count_lt hbody)
    · simp only [listed_eq, List.map_filterMap, Option.map_map, Function.comp_def,
        Listing.entryOf]
  · intro τ b hsame
    -- Equal answers are of one size, so both of them can be read.
    have hbody' := hsize
    rw [← hsame, drop_identitiesAnswer] at hbody'
    have hlisted : b.listed = a.listed := Listing.identities_injective hbody hbody' hsame
    rwa [listed_eq, listed_eq] at hlisted

/-- An identity without a key is left out, an empty key is a key, and a key that two identities
have is listed twice. -/
theorem identitiesAnswer_lists_duplicate :
    let empty : Identity := { Identity.ofHost "ä" with key := some ⟨[]⟩ }
    let one : Identity := { Identity.ofHost "one" with key := some ⟨[0, 0, 0, 1]⟩ }
    let a : Agent Simulator :=
      ⟨Simulator.fresh, Timing.default, [empty, Identity.ofHost "two", one, one]⟩
    (a.identitiesAnswer.drop 4).length < 2 ^ 32 ∧
    handle [0, 0, 0, 1, 11] a = .ok a.identitiesAnswer a ∧
    ∃ listing, Listing.read a.identitiesAnswer = .ok listing [] ∧
      listing.entries = [([], Utf8.encode "ssh://ä"), ([0, 0, 0, 1], Utf8.encode "ssh://one"),
        ([0, 0, 0, 1], Utf8.encode "ssh://one")] := by
  intro empty one a
  have hsize : (a.identitiesAnswer.drop 4).length < 2 ^ 32 := by
    decide +kernel
  rcases identitiesAnswer_lists a hsize with ⟨hhandle, ⟨listing, hread, _, _, _, hentries⟩, _⟩
  refine ⟨hsize, hhandle _ rfl, listing, hread, ?_⟩
  rw [hentries]
  decide +kernel

end Agent

end TokenAgent
