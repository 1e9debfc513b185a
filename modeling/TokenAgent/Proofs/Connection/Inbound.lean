import TokenAgent.Connection
import TokenAgent.Proofs.Wire

/-!
# The messages of a stream

`Inbound.Front stream inbound` says, without reading anything, what stands at the front of a
stream: a whole message, less than a length, a length that is not accepted, or less than the
length declares.  Every stream is of one of these forms (`Inbound.front_ofStream`).  Taking
messages off the front until there is none leads to the induction principle
`Inbound.stream_induction`, and to the messages of a stream (`Inbound.exists_split`).
-/

namespace TokenAgent

namespace Inbound

open Running

/-- A message of a client: the length of its body, which is accepted, and the body. -/
def IsMessage (m : Bytes) : Prop :=
  ∃ body : Bytes, body.length ≤ maxMessageSize - 4 ∧ m = Bytes.bigEndian 4 body.length ++ body

/-- What stands at the front of a stream. -/
inductive Front : Bytes → Inbound → Prop where
  | message {m : Bytes} (hm : IsMessage m) (rest : Bytes) :
      Front (m ++ rest) (.message m rest)
  /-- Not even a length is there. -/
  | closed {stream : Bytes} (hshort : stream.length < 4) :
      Front stream .closed
  | oversize {length : Nat} (hsize : length < 2 ^ 32) (hlarge : maxMessageSize - 4 < length)
      (rest : Bytes) :
      Front (Bytes.bigEndian 4 length ++ rest) (.oversize length)
  | cut {length : Nat} {rest : Bytes} (haccepted : length ≤ maxMessageSize - 4)
      (hshort : rest.length < length) :
      Front (Bytes.bigEndian 4 length ++ rest) .cut

/-! ## Looking at the front -/

theorem lt_of_accepted {length : Nat} (h : length ≤ maxMessageSize - 4) : length < 2 ^ 32 := by
  simp only [maxMessageSize] at h
  omega

section Declared

variable {length : Nat} {rest : Bytes}

theorem ofStream_oversize (hsize : length < 2 ^ 32) (hlarge : maxMessageSize - 4 < length) :
    ofStream (Bytes.bigEndian 4 length ++ rest) = .oversize length := by
  simp only [ofStream, Reader.uint32_bigEndian rest hsize, UInt32.toNat_ofNat_of_lt' hsize, if_pos hlarge]

theorem ofStream_cut (haccepted : length ≤ maxMessageSize - 4) (hshort : rest.length < length) :
    ofStream (Bytes.bigEndian 4 length ++ rest) = .cut := by
  have hsize := lt_of_accepted haccepted
  simp only [ofStream, Reader.uint32_bigEndian rest hsize, UInt32.toNat_ofNat_of_lt' hsize,
    if_neg (Nat.not_lt.2 haccepted), Reader.take_of_short hshort]

end Declared

theorem ofStream_message {m : Bytes} (hm : IsMessage m) (rest : Bytes) :
    ofStream (m ++ rest) = .message m rest := by
  rcases hm with ⟨body, haccepted, rfl⟩
  have hsize := lt_of_accepted haccepted
  have hlength : (Bytes.bigEndian 4 body.length ++ (body ++ rest)).take 4
      = Bytes.bigEndian 4 body.length :=
    List.take_left' (Bytes.length_bigEndian 4 _)
  simp only [List.append_assoc, ofStream, Reader.uint32_bigEndian (body ++ rest) hsize,
    UInt32.toNat_ofNat_of_lt' hsize, if_neg (Nat.not_lt.2 haccepted), Reader.take_append, hlength]

theorem ofStream_closed {stream : Bytes} (hshort : stream.length < 4) :
    ofStream stream = .closed := by
  simp only [ofStream, Reader.uint32_of_short hshort]

theorem Front.ofStream_eq {stream : Bytes} {inbound : Inbound} (h : Front stream inbound) :
    ofStream stream = inbound := by
  cases h with
  | message hm rest => exact ofStream_message hm rest
  | closed hshort => exact ofStream_closed hshort
  | oversize hsize hlarge rest => exact ofStream_oversize hsize hlarge
  | cut haccepted hshort => exact ofStream_cut haccepted hshort

theorem exists_front (stream : Bytes) : ∃ inbound, Front stream inbound := by
  by_cases hshort : stream.length < 4
  · exact ⟨.closed, .closed hshort⟩
  · rcases Bytes.exists_bigEndian (Nat.le_of_not_lt hshort) with ⟨length, behind, hsize, rfl⟩
    by_cases hlarge : maxMessageSize - 4 < length
    · exact ⟨.oversize length, .oversize hsize hlarge behind⟩
    · have haccepted := Nat.le_of_not_lt hlarge
      by_cases hcut : behind.length < length
      · exact ⟨.cut, .cut haccepted hcut⟩
      · -- The body is there, and perhaps more behind it.
        rcases Bytes.exists_front (Nat.le_of_not_lt hcut) with ⟨body, rest, rfl, rfl⟩
        refine ⟨.message (Bytes.bigEndian 4 body.length ++ body) rest, ?_⟩
        rw [← List.append_assoc]
        exact .message ⟨body, haccepted, rfl⟩ rest

theorem front_ofStream (stream : Bytes) : Front stream (ofStream stream) := by
  rcases exists_front stream with ⟨inbound, h⟩
  rw [h.ofStream_eq]
  exact h

theorem ofStream_eq_message_iff {stream m rest : Bytes} :
    ofStream stream = .message m rest ↔ IsMessage m ∧ stream = m ++ rest := by
  constructor
  · intro hfront
    have h := front_ofStream stream
    rw [hfront] at h
    cases h with
    | message hm rest => exact ⟨hm, rfl⟩
  · rintro ⟨hm, rfl⟩
    exact ofStream_message hm rest

/-! ## All messages of a stream -/

/-- No message stands at the front of a stream. -/
def Over (stream : Bytes) : Prop :=
  ∀ m, IsMessage m → ¬ m <+: stream

theorem over_iff {stream : Bytes} :
    Over stream ↔ ∀ m rest, ofStream stream ≠ .message m rest := by
  constructor
  · intro hover m rest hfront
    have h := front_ofStream stream
    rw [hfront] at h
    cases h with
    | message hm rest => exact hover m hm (List.prefix_append m rest)
  · rintro hnone m hm ⟨rest, rfl⟩
    exact hnone m rest (ofStream_message hm rest)

/-- A stream has no message at its front, or it is a message with a stream behind it. -/
@[elab_as_elim]
theorem stream_induction {motive : Bytes → Prop} (ended : ∀ stream, Over stream → motive stream)
    (message : ∀ m rest, IsMessage m → motive rest → motive (m ++ rest)) (stream : Bytes) :
    motive stream := by
  -- A message has at least its length, so the stream behind it is shorter.
  induction hlength : stream.length using Nat.strongRecOn generalizing stream with
  | ind n ih =>
      subst hlength
      cases hfront : ofStream stream with
      | message m rest =>
          have hshorter := rest_shorter hfront
          have h := front_ofStream stream
          rw [hfront] at h
          cases h with
          | message hm rest => exact message m rest hm (ih rest.length hshorter rest rfl)
      | closed => exact ended stream (over_iff.2 (by simp [hfront]))
      | oversize length => exact ended stream (over_iff.2 (by simp [hfront]))
      | cut => exact ended stream (over_iff.2 (by simp [hfront]))

theorem IsMessage.delimited {m : Bytes} (hm : IsMessage m) : Wire.Delimited m := by
  rcases hm with ⟨body, haccepted, rfl⟩
  exact Wire.delimited_envelope (lt_of_accepted haccepted)

theorem exists_split (stream : Bytes) :
    ∃ messages rest, Wire.Split IsMessage stream messages rest := by
  induction stream using stream_induction with
  | ended stream hover =>
      refine ⟨[], stream, ?_, ?_, hover⟩
      · rfl
      · intro m hmem
        cases hmem
  | message m stream hm ih =>
      rcases ih with ⟨messages, rest, hsplit⟩
      exact ⟨m :: messages, rest, hsplit.cons hm⟩

end Inbound

end TokenAgent
