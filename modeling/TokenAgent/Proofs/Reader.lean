import TokenAgent.Frame.Assembly
import TokenAgent.Proofs.Bytes
import TokenAgent.Proofs.Running

/-!
# Laws of readers

What a reader gets from a buffer that starts with the written form of a value: that value, and
the rest of the buffer is left unread, whatever it is.
-/

namespace TokenAgent

namespace Reader

open Running

variable (rest : Bytes)

theorem take_of_length {n : Nat} {front : Bytes} (h : front.length = n) :
    take n (front ++ rest) = .ok front rest := by
  subst h
  exact take_append front rest

theorem byte_cons (b : UInt8) : byte (b :: rest) = .ok b rest := by
  have htake : take 1 (b :: rest) = .ok [b] rest := take_append [b] rest
  have hvalue : UInt8.ofNat (Bytes.ofBigEndian [b]) = b := by
    simp [Bytes.ofBigEndian]
  rw [byte, bind_ok htake, hvalue]
  rfl

theorem uint16_append (word : UInt16) :
    uint16 (Bytes.bigEndian 2 word.toNat ++ rest) = .ok word rest := by
  have htake : take 2 (Bytes.bigEndian 2 word.toNat ++ rest)
      = .ok (Bytes.bigEndian 2 word.toNat) rest :=
    take_of_length rest (Bytes.length_bigEndian 2 word.toNat)
  have hvalue : Bytes.ofBigEndian (Bytes.bigEndian 2 word.toNat) = word.toNat :=
    Bytes.ofBigEndian_bigEndian word.toNat_lt
  rw [uint16, bind_ok htake, hvalue, UInt16.ofNat_toNat]
  rfl

theorem take_eq_ok_iff {n : Nat} {unread front rest : Bytes} :
    take n unread = .ok front rest ↔ front.length = n ∧ unread = front ++ rest := by
  constructor
  · intro h
    by_cases hn : n ≤ unread.length
    · rcases Bytes.exists_front hn with ⟨front', rest', hfront, rfl⟩
      rw [take_of_length rest' hfront] at h
      injection h with hfirst hsecond
      subst hfirst hsecond
      exact ⟨hfront, rfl⟩
    · -- A read of more than there is fails.
      rw [take_of_short (Nat.lt_of_not_le hn)] at h
      cases h
  · rintro ⟨hfront, rfl⟩
    exact take_of_length rest hfront

theorem uint32_bigEndian {n : Nat} (h : n < 2 ^ 32) :
    uint32 (Bytes.bigEndian 4 n ++ rest) = .ok (UInt32.ofNat n) rest := by
  have htake : take 4 (Bytes.bigEndian 4 n ++ rest) = .ok (Bytes.bigEndian 4 n) rest :=
    take_of_length rest (Bytes.length_bigEndian 4 n)
  have hvalue : Bytes.ofBigEndian (Bytes.bigEndian 4 n) = n := Bytes.ofBigEndian_bigEndian h
  rw [uint32, bind_ok htake, hvalue]
  rfl

theorem uint32_append (word : UInt32) :
    uint32 (Bytes.bigEndian 4 word.toNat ++ rest) = .ok word rest := by
  rw [uint32_bigEndian rest word.toNat_lt, UInt32.ofNat_toNat]

theorem uint32_of_short {unread : Bytes} (h : unread.length < 4) :
    uint32 unread = .error ⟨4, unread.length⟩ unread :=
  bind_error (take_of_short h)

theorem skip_of_length {n : Nat} {front : Bytes} (h : front.length = n) :
    skip n (front ++ rest) = .ok () rest :=
  bind_ok (take_of_length rest h)

theorem byte_eq_ok_iff {b : UInt8} {unread rest : Bytes} :
    byte unread = .ok b rest ↔ unread = b :: rest := by
  constructor
  · intro h
    cases unread with
    | nil => cases h
    | cons b' rest' =>
        rw [byte_cons] at h
        injection h with hbyte hrest
        rw [hbyte, hrest]
  · rintro rfl
    exact byte_cons rest b

/-- A read that is cut has asked for more than there was. -/
theorem failsWith_take (n : Nat) :
    FailsWith (fun missing => missing.remaining < missing.needed) (take n) := by
  intro unread missing rest h
  by_cases hshort : unread.length < n
  · rw [take_of_short hshort] at h
    cases h
    exact hshort
  · rcases Bytes.exists_front (Nat.le_of_not_lt hshort) with ⟨front, behind, hfront, rfl⟩
    rw [take_of_length behind hfront] at h
    cases h

end Reader

namespace Frame

open Running

variable (rest : Bytes)

/-! ## Headers -/

theorem Header.read_append (h : Header) : Header.read (h.toBytes ++ rest) = .ok h rest := by
  have hchannel :=
    Reader.uint16_append (h.tag :: (Bytes.bigEndian 2 h.sequence.toNat ++ rest)) h.channel
  have htag := Reader.byte_cons (Bytes.bigEndian 2 h.sequence.toNat ++ rest) h.tag
  have hsequence := Reader.uint16_append rest h.sequence
  have hbytes : h.toBytes ++ rest = Bytes.bigEndian 2 h.channel.toNat
      ++ (h.tag :: (Bytes.bigEndian 2 h.sequence.toNat ++ rest)) := by
    simp [toBytes]
  rw [hbytes, Header.read, bind_ok hchannel, bind_ok htag, bind_ok hsequence]
  rfl

/-- Five bytes at the front of a buffer are one header, right or wrong. -/
theorem exists_header {raw : Bytes} (hsize : headerSize ≤ raw.length) :
    ∃ (h : Header) (rest : Bytes), raw = h.toBytes ++ rest := by
  rw [headerSize] at hsize
  have hchannel : 2 ≤ raw.length := by omega
  rcases Bytes.exists_word hchannel with ⟨channel, afterChannel, rfl⟩
  rw [List.length_append, Bytes.length_bigEndian] at hsize
  cases afterChannel with
  | nil => exact absurd hsize (by decide)
  | cons tag afterTag =>
      rw [List.length_cons] at hsize
      have hsequence : 2 ≤ afterTag.length := by omega
      rcases Bytes.exists_word hsequence with ⟨sequence, rest, rfl⟩
      refine ⟨⟨channel, tag, sequence⟩, rest, ?_⟩
      simp [Header.toBytes]

theorem expectHeader_ofSequence (k : UInt16) :
    expectHeader k ((Header.ofSequence k).toBytes ++ rest) = .ok () rest := by
  have hread : (Header.read.orElseFail FramingError.truncated)
      ((Header.ofSequence k).toBytes ++ rest) = .ok (Header.ofSequence k) rest :=
    adaptExcept_ok (Header.read_append rest _)
  have hcheck : (Header.ofSequence k).check k = .ok () := Header.check_eq_ok_iff.2 rfl
  rw [expectHeader, bind_ok hread, hcheck]
  rfl

theorem expectHeader_of_fault {h : Header} {k : UInt16} {e : FramingError}
    (hcheck : h.check k = .error e) :
    expectHeader k (h.toBytes ++ rest) = .error e rest := by
  have hread : (Header.read.orElseFail FramingError.truncated) (h.toBytes ++ rest) = .ok h rest :=
    adaptExcept_ok (Header.read_append rest h)
  rw [expectHeader, bind_ok hread, hcheck]
  rfl

end Frame

end TokenAgent
