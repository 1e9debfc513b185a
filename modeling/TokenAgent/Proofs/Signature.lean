import TokenAgent.Proofs.Wire
import TokenAgent.Signature

/-!
# Signatures of tokens

A payload is a signature if it is long enough for the lengths that it declares
(`Signature.Lengths`), and then it holds two integers, each behind its length
(`Signature.Holds`).  The two conditions are the same, one told by places and one by the parts.

* `Signature.Holds.ofResponse_eq` — a payload that holds two integers becomes a signature;
* `Signature.exists_shortfall` — any other payload ends before a part that it declares;
* `Signature.ofResponse_fields` — the signature is read back, and nothing but the lengths and the
  integers has a part in it.
-/

namespace TokenAgent

namespace Signature

open Running

variable {payload r s : Bytes} {rLength sLength : UInt8}

/-! ## Payloads -/

/-- Three bytes, `r` behind its length, a tag, `s` behind its length, and whatever follows. -/
inductive Holds (r s : Bytes) : Bytes → Prop where
  | parts {front rest : Bytes} {rLength tag sLength : UInt8} (hfront : front.length = 3)
      (hr : r.length = rLength.toNat) (hs : s.length = sLength.toNat) :
      Holds r s (front ++ rLength :: (r ++ tag :: sLength :: (s ++ rest)))

/-- The lengths of `r` and of `s` in a payload that does not end before either of them. -/
structure Lengths (payload : Bytes) (rLength sLength : UInt8) : Prop where
  front : 4 ≤ payload.length
  r : payload[3]? = some rLength
  r_end : 6 + rLength.toNat ≤ payload.length
  s : payload[5 + rLength.toNat]? = some sLength
  s_end : 6 + rLength.toNat + sLength.toNat ≤ payload.length

theorem drop_eq_cons_of_getElem? {n : Nat} {b : UInt8} (h : payload[n]? = some b) :
    payload.drop n = b :: payload.drop (n + 1) := by
  rcases List.getElem?_eq_some_iff.1 h with ⟨hn, rfl⟩
  exact List.drop_eq_getElem_cons hn

theorem Lengths.holds (h : Lengths payload rLength sLength) :
    Holds ((payload.drop 4).take rLength.toNat)
      ((payload.drop (6 + rLength.toNat)).take sLength.toNat) payload := by
  have hrEnd := h.r_end
  have hsEnd := h.s_end
  have htag : ∃ tag, payload[4 + rLength.toNat]? = some tag :=
    ⟨_, List.getElem?_eq_getElem (by omega)⟩
  rcases htag with ⟨tag, htag⟩
  -- From the front to the end: one part, and what is behind it.
  have hfront : payload = payload.take 3 ++ payload.drop 3 := by
    rw [List.take_append_drop]
  have hrLength : payload.drop 3 = rLength :: payload.drop 4 := drop_eq_cons_of_getElem? h.r
  have hr : payload.drop 4
      = (payload.drop 4).take rLength.toNat ++ payload.drop (4 + rLength.toNat) := by
    rw [← List.drop_drop, List.take_append_drop]
  have hsLength : payload.drop (4 + rLength.toNat)
      = tag :: sLength :: payload.drop (6 + rLength.toNat) := by
    have hnext : 4 + rLength.toNat + 1 = 5 + rLength.toNat := by omega
    have hlast : 5 + rLength.toNat + 1 = 6 + rLength.toNat := by omega
    rw [drop_eq_cons_of_getElem? htag, hnext, drop_eq_cons_of_getElem? h.s, hlast]
  have hs : payload.drop (6 + rLength.toNat)
      = (payload.drop (6 + rLength.toNat)).take sLength.toNat
        ++ payload.drop (6 + rLength.toNat + sLength.toNat) := by
    rw [← List.drop_drop (i := sLength.toNat), List.take_append_drop]
  have hholds : Holds ((payload.drop 4).take rLength.toNat)
      ((payload.drop (6 + rLength.toNat)).take sLength.toNat)
      (payload.take 3 ++ rLength :: ((payload.drop 4).take rLength.toNat ++ tag :: sLength ::
        ((payload.drop (6 + rLength.toNat)).take sLength.toNat
          ++ payload.drop (6 + rLength.toNat + sLength.toNat)))) := by
    refine .parts ?_ ?_ ?_
    · exact List.length_take_of_le (by omega)
    · exact List.length_take_of_le (by rw [List.length_drop]; omega)
    · exact List.length_take_of_le (by rw [List.length_drop]; omega)
  rwa [← hs, ← hsLength, ← hr, ← hrLength, ← hfront] at hholds

theorem Holds.exists_lengths (h : Holds r s payload) :
    ∃ rLength sLength, Lengths payload rLength sLength := by
  cases h with
  | @parts front rest rLength tag sLength hfront hr hs =>
      have hsPlace : (front ++ rLength :: (r ++ tag :: sLength :: (s ++ rest)))[5
          + rLength.toNat]? = some sLength := by
        have hbefore : (front ++ rLength :: r).length = 4 + rLength.toNat := by
          rw [List.length_append, List.length_cons, hfront, hr]
          omega
        have hsplit : front ++ rLength :: (r ++ tag :: sLength :: (s ++ rest))
            = (front ++ rLength :: r) ++ tag :: sLength :: (s ++ rest) := by
          simp
        have hplace : 5 + rLength.toNat - (front ++ rLength :: r).length = 1 := by omega
        rw [hsplit, List.getElem?_append_right (by omega), hplace]
        rfl
      refine ⟨rLength, sLength, ?_, ?_, ?_, hsPlace, ?_⟩
      · simp only [List.length_append, List.length_cons, hfront]
        omega
      · rw [List.getElem?_append_right (Nat.le_of_eq hfront), hfront]
        rfl
      · simp only [List.length_append, List.length_cons, hfront, hr]
        omega
      · simp only [List.length_append, List.length_cons, hfront, hr, hs]
        omega

/-- What is inside a buffer is there whatever follows it. -/
theorem take_drop_append {first size : Nat} {front : Bytes} (h : first + size ≤ front.length)
    (rest : Bytes) : ((front ++ rest).drop first).take size = (front.drop first).take size := by
  have hfirst : first ≤ front.length := (Nat.le_add_right first size).trans h
  have hsize : size ≤ (front.drop first).length := by
    rw [List.length_drop]
    exact Nat.le_sub_of_add_le' h
  rw [List.drop_append_of_le_length hfirst, List.take_append_of_le_length hsize]

/-- What follows the integers does not change what is at their places. -/
theorem Lengths.take_append (h : Lengths payload rLength sLength) (rest : Bytes) :
    let other := payload.take (6 + rLength.toNat + sLength.toNat) ++ rest
    Lengths other rLength sLength ∧
      (other.drop 4).take rLength.toNat = (payload.drop 4).take rLength.toNat ∧
      (other.drop (6 + rLength.toNat)).take sLength.toNat
        = (payload.drop (6 + rLength.toNat)).take sLength.toNat := by
  intro other
  let front := payload.take (6 + rLength.toNat + sLength.toNat)
  have hlength : front.length = 6 + rLength.toNat + sLength.toNat :=
    List.length_take_of_le h.s_end
  have hkept : 6 + rLength.toNat + sLength.toNat ≤ other.length := by
    rw [← hlength, List.length_append]
    exact Nat.le_add_right _ _
  have hat : ∀ n < 6 + rLength.toNat + sLength.toNat, other[n]? = payload[n]? := by
    intro n hn
    rw [List.getElem?_append_left (hn.trans_eq hlength.symm), List.getElem?_take_of_lt hn]
  have hblock : ∀ first size, first + size ≤ 6 + rLength.toNat + sLength.toNat →
      (other.drop first).take size = (payload.drop first).take size := by
    intro first size hinside
    rw [← hlength] at hinside
    calc (other.drop first).take size
        = (front.drop first).take size := take_drop_append hinside rest
      _ = ((front ++ payload.drop (6 + rLength.toNat + sLength.toNat)).drop first).take size :=
          (take_drop_append hinside _).symm
      _ = (payload.drop first).take size := by rw [List.take_append_drop]
  refine ⟨⟨by omega, ?_, by omega, ?_, hkept⟩, hblock 4 _ (by omega), hblock _ _ (Nat.le_refl _)⟩
  · rw [hat 3 (by omega)]
    exact h.r
  · rw [hat (5 + rLength.toNat) (by omega)]
    exact h.s

/-! ## Reading the integers -/

section Parts

variable {front : Bytes} (hfront : front.length = rLengthOffset)

include hfront

/-- What stands in front is passed over. -/
theorem readIntegers_front {front' : Bytes} (hfront' : front'.length = rLengthOffset)
    (unread : Bytes) : readIntegers (front ++ unread) = readIntegers (front' ++ unread) := by
  rw [readIntegers, bind_ok (Reader.skip_of_length _ hfront),
    bind_ok (Reader.skip_of_length _ hfront')]

variable (hr : r.length = rLength.toNat)

include hr

/-- The tag behind `r` is passed over. -/
theorem readIntegers_tag (tag tag' : UInt8) (unread : Bytes) :
    readIntegers (front ++ rLength :: (r ++ tag :: unread))
      = readIntegers (front ++ rLength :: (r ++ tag' :: unread)) := by
  have htag : ∀ b : UInt8, Reader.skip 1 (b :: unread) = .ok () unread := by
    intro b
    exact Reader.skip_of_length unread (rfl : [b].length = 1)
  simp only [readIntegers, bind_ok (Reader.skip_of_length _ hfront),
    bind_ok (Reader.byte_cons _ _), bind_ok (Reader.take_of_length _ hr), bind_ok (htag tag),
    bind_ok (htag tag')]

/-- The integers are read one part after the other; what is behind them is left. -/
theorem readIntegers_parts (tag : UInt8) (hs : s.length = sLength.toNat) (rest : Bytes) :
    readIntegers (front ++ rLength :: (r ++ tag :: sLength :: (s ++ rest)))
      = .ok (r, dropSignByte s) rest := by
  have htag : Reader.skip 1 (tag :: sLength :: (s ++ rest)) = .ok () (sLength :: (s ++ rest)) :=
    Reader.skip_of_length _ (rfl : [tag].length = 1)
  rw [readIntegers, bind_ok (Reader.skip_of_length _ hfront), bind_ok (Reader.byte_cons _ _),
    bind_ok (Reader.take_of_length _ hr), bind_ok htag, bind_ok (Reader.byte_cons _ _),
    bind_ok (Reader.take_of_length _ hs)]
  rfl

end Parts

/-- Only a payload that holds two integers is read to the end of the second one. -/
theorem exists_holds {integers : Bytes × Bytes} {rest : Bytes}
    (h : readIntegers payload = .ok integers rest) : ∃ r s, Holds r s payload := by
  rcases exists_of_bind_ok h with ⟨_, afterFront, hfront, h⟩
  rcases exists_of_bind_ok h with ⟨rLength, afterLength, hrLength, h⟩
  rcases exists_of_bind_ok h with ⟨r, afterR, hr, h⟩
  rcases exists_of_bind_ok h with ⟨_, afterTag, htag, h⟩
  rcases exists_of_bind_ok h with ⟨sLength, afterLength', hsLength, h⟩
  rcases exists_of_bind_ok h with ⟨s, afterS, hs, _⟩
  -- Each part that was read stands in front of what was left behind it.
  rcases exists_of_bind_ok hfront with ⟨front, _, hfront, hsame⟩
  cases hsame
  rcases exists_of_bind_ok htag with ⟨tag, _, htag, hsame⟩
  cases hsame
  rcases Reader.take_eq_ok_iff.1 hfront with ⟨hfrontLength, rfl⟩
  rw [Reader.byte_eq_ok_iff] at hrLength
  subst hrLength
  rcases Reader.take_eq_ok_iff.1 hr with ⟨hrLength, rfl⟩
  rcases Reader.take_eq_ok_iff.1 htag with ⟨htagLength, rfl⟩
  rcases List.length_eq_one_iff.1 htagLength with ⟨tag, rfl⟩
  rw [Reader.byte_eq_ok_iff] at hsLength
  subst hsLength
  rcases Reader.take_eq_ok_iff.1 hs with ⟨hsLength, rfl⟩
  exact ⟨r, s, .parts hfrontLength hrLength hsLength⟩

/-- Reading stops only where it asks for more than there is. -/
theorem failsWith_readIntegers :
    FailsWith (fun missing => missing.remaining < missing.needed) readIntegers := by
  have htake := Reader.failsWith_take
  have hskip : ∀ n, FailsWith (fun missing => missing.remaining < missing.needed)
      (Reader.skip n) := by
    intro n
    exact (htake n).bind fun _ => failsWith_pure _ ()
  have hbyte : FailsWith (fun missing => missing.remaining < missing.needed) Reader.byte :=
    (htake 1).bind fun _ => failsWith_pure _ _
  refine (hskip rLengthOffset).bind fun _ => hbyte.bind fun _ => (htake _).bind fun _ => ?_
  exact (hskip 1).bind fun _ => hbyte.bind fun _ => (htake _).bind fun _ => failsWith_pure _ _

/-! ## Signatures of payloads -/

theorem dropSignByte_eq (s : Bytes) :
    dropSignByte s = if s.head? = some 0 then s.tail else s := by
  cases s with
  | nil => rfl
  | cons b rest =>
      by_cases hzero : b = 0
      · subst hzero
        rfl
      · have hhead : (b :: rest).head? ≠ some 0 := by
          simpa using hzero
        rw [if_neg hhead, dropSignByte]
        intro rest' hsame
        exact hzero (List.cons.inj hsame).1

/-- A leading zero adds nothing to a number. -/
theorem ofBigEndian_dropSignByte (s : Bytes) :
    Bytes.ofBigEndian (dropSignByte s) = Bytes.ofBigEndian s := by
  rw [dropSignByte_eq]
  split
  · cases s with
    | nil => rfl
    | cons b rest =>
        have hzero : b = 0 := by
          simpa using ‹(b :: rest).head? = some 0›
        subst hzero
        rfl
  · rfl

theorem length_dropSignByte_le (s : Bytes) : (dropSignByte s).length ≤ s.length := by
  rw [dropSignByte_eq]
  split
  · simp
  · exact Nat.le_refl _

theorem Holds.ofResponse_eq (h : Holds r s payload) (keyType : String) :
    ofResponse keyType payload
      = .ok ⟨Wire.fields [Utf8.encode keyType, Wire.fields [r, dropSignByte s]]⟩ := by
  cases h with
  | parts hfront hr hs => rw [ofResponse, readIntegers_parts hfront hr _ hs]

theorem exists_shortfall (h : ∀ r s, ¬ Holds r s payload) (keyType : String) :
    ∃ missing, ofResponse keyType payload = .error (.malformedSignature missing) ∧
      missing.remaining < missing.needed := by
  cases hread : readIntegers payload with
  | ok integers rest =>
      rcases exists_holds hread with ⟨r, s, hholds⟩
      exact absurd hholds (h r s)
  | error missing rest =>
      refine ⟨missing, ?_, failsWith_readIntegers payload missing rest hread⟩
      rw [ofResponse, hread]

/-- The integers of a payload have one byte for their lengths each. -/
theorem Holds.lengths_lt (h : Holds r s payload) :
    r.length < 256 ∧ (dropSignByte s).length < 256 := by
  cases h with
  | @parts _ _ rLength _ sLength _ hr hs =>
      refine ⟨hr ▸ rLength.toNat_lt, ?_⟩
      exact Nat.lt_of_le_of_lt (length_dropSignByte_le s) (hs ▸ sLength.toNat_lt)

/-- So they fit into fields. -/
theorem Holds.fields_eq (h : Holds r s payload) :
    (Wire.fields [r, dropSignByte s]).length < 2 ^ 32 ∧
      Reader.fields 2 (Wire.fields [r, dropSignByte s]) = .ok [r, dropSignByte s] [] := by
  rcases h.lengths_lt with ⟨hrSize, hsSize⟩
  refine ⟨?_, ?_⟩
  · simp only [Wire.fields_cons, Wire.fields_nil, List.length_append, Wire.length_field,
      List.length_nil]
    omega
  · have hr : r.length < 2 ^ 32 := hrSize.trans (by decide)
    have hs : (dropSignByte s).length < 2 ^ 32 := hsSize.trans (by decide)
    simpa using Reader.fields_two hr hs []

/-- A signature is not much longer than the name of its key type. -/
theorem length_of_ofResponse {keyType : String} {signature : Signature}
    (h : ofResponse keyType payload = .ok signature) :
    signature.bytes.length < (Utf8.encode keyType).length + 1024 := by
  by_cases hholds : ∃ r s, Holds r s payload
  · rcases hholds with ⟨r, s, hholds⟩
    rcases hholds.lengths_lt with ⟨hr, hs⟩
    rw [hholds.ofResponse_eq] at h
    cases h
    simp only [Wire.fields_cons, Wire.fields_nil, List.length_append, Wire.length_field,
      List.length_nil]
    omega
  · have hnone : ∀ r s, ¬ Holds r s payload := fun r s hparts => hholds ⟨r, s, hparts⟩
    rcases exists_shortfall hnone keyType with ⟨missing, hfault, _⟩
    rw [hfault] at h
    cases h

/-- A payload becomes a signature exactly if it has all parts that it declares, and else it is
told what is missing.  The signature is two fields, the name of the key type and two fields again:
`r` as it is, and `s` without one leading zero, so that both are the same numbers as before.  The
three bytes in front, the tag between the integers and what follows them play no part. -/
theorem ofResponse_fields (keyType : String) (payload : Bytes)
    (hname : (Utf8.encode keyType).length < 2 ^ 32) :
    ((∃ signature, ofResponse keyType payload = .ok signature) ↔
      ∃ rLength sLength, Lengths payload rLength sLength) ∧
    ((¬ ∃ rLength sLength, Lengths payload rLength sLength) →
      ∃ missing, ofResponse keyType payload = .error (.malformedSignature missing) ∧
        missing.remaining < missing.needed) ∧
    (∀ rLength sLength, Lengths payload rLength sLength →
      let r := (payload.drop 4).take rLength.toNat
      let s := (payload.drop (6 + rLength.toNat)).take sLength.toNat
      let kept := if s.head? = some 0 then s.tail else s
      ∃ signature inner, ofResponse keyType payload = .ok signature ∧
        Reader.fields 2 signature.bytes = .ok [Utf8.encode keyType, inner] [] ∧
        Reader.fields 2 inner = .ok [r, kept] [] ∧
        Bytes.ofBigEndian kept = Bytes.ofBigEndian s ∧
        ∀ rest, ofResponse keyType
          (payload.take (6 + rLength.toNat + sLength.toNat) ++ rest) = .ok signature) ∧
    (∀ front front' rest : Bytes, front.length = 3 → front'.length = 3 →
      ofResponse keyType (front ++ rest) = ofResponse keyType (front' ++ rest)) ∧
    ∀ (front r rest : Bytes) (rLength tag tag' : UInt8), front.length = 3 →
      r.length = rLength.toNat →
      ofResponse keyType (front ++ rLength :: (r ++ tag :: rest))
        = ofResponse keyType (front ++ rLength :: (r ++ tag' :: rest)) := by
  -- Without lengths there are no integers, and then something is missing.
  have hshort : (¬ ∃ rLength sLength, Lengths payload rLength sLength) →
      ∃ missing, ofResponse keyType payload = .error (.malformedSignature missing) ∧
        missing.remaining < missing.needed := by
    intro hnone
    apply exists_shortfall
    intro r s hholds
    exact hnone hholds.exists_lengths
  refine ⟨⟨?_, ?_⟩, hshort, ?_, ?_, ?_⟩
  · rintro ⟨signature, hsignature⟩
    by_contra hnone
    rcases hshort hnone with ⟨missing, hmissing, _⟩
    rw [hsignature] at hmissing
    cases hmissing
  · rintro ⟨rLength, sLength, hlengths⟩
    exact ⟨_, hlengths.holds.ofResponse_eq keyType⟩
  · intro rLength sLength hlengths r s kept
    have hholds : Holds r s payload := hlengths.holds
    have hkept : dropSignByte s = kept := dropSignByte_eq s
    rcases hholds.fields_eq with ⟨hinner, hintegers⟩
    refine ⟨_, Wire.fields [r, dropSignByte s], hholds.ofResponse_eq keyType, ?_, ?_, ?_, ?_⟩
    · simpa using Reader.fields_two hname hinner []
    · rw [← hkept]
      exact hintegers
    · rw [← hkept]
      exact ofBigEndian_dropSignByte s
    · intro rest
      rcases hlengths.take_append rest with ⟨hother, hr, hs⟩
      have hsame := hother.holds.ofResponse_eq keyType
      rwa [hr, hs] at hsame
  · intro front front' rest hfront hfront'
    rw [ofResponse, ofResponse, readIntegers_front hfront hfront']
  · intro front r rest rLength tag tag' hfront hr
    rw [ofResponse, ofResponse, readIntegers_tag hfront hr tag tag']

/-- An `r` with a leading zero and an `s` with two, of which one stays. -/
theorem ofResponse_fields_zeros :
    let payload : Bytes := [0x30, 0x09, 0x02, 0x02, 0x00, 0x81, 0x02, 0x03, 0x00, 0x00, 0x92, 0xFF]
    (Utf8.encode "ecdsa-sha2-nistp256").length < 2 ^ 32 ∧
    ∃ signature inner, ofResponse "ecdsa-sha2-nistp256" payload = .ok signature ∧
      Reader.fields 2 signature.bytes = .ok [Utf8.encode "ecdsa-sha2-nistp256", inner] [] ∧
      Reader.fields 2 inner = .ok [[0x00, 0x81], [0x00, 0x92]] [] := by
  intro payload
  have hname : (Utf8.encode "ecdsa-sha2-nistp256").length < 2 ^ 32 := by
    have hlength : (Utf8.encode "ecdsa-sha2-nistp256").length = 19 := rfl
    rw [hlength]
    decide
  have hlengths : Lengths payload 2 3 := ⟨by decide, rfl, by decide, rfl, by decide⟩
  rcases (ofResponse_fields "ecdsa-sha2-nistp256" payload hname).2.2.1 2 3 hlengths with
    ⟨signature, inner, hsignature, hfields, hintegers, _⟩
  exact ⟨hname, signature, inner, hsignature, hfields, hintegers⟩

end Signature

end TokenAgent
