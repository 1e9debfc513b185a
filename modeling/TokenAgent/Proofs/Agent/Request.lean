import TokenAgent.Agent.Message
import TokenAgent.Proofs.Wire

/-!
# What a message asks for

A message begins with a declared length.  Zero declares that there is no message; of any other
length nothing depends, so what a message asks for is told by the bytes behind it.

* `SignRequest.challenge_eq_ok_iff` — the challenge is the next field of what is unread;
* `Request.Asks` — what the bytes behind the length ask for, right or wrong;
* `Request.decode_eq_iff` — a message is read as what these bytes ask for, whatever it declares;
* `Request.decode_tells` — which messages are requests, which requests they are, and how all
  others fail.
-/

namespace TokenAgent

open Running

/-! ## Challenges -/

/-- The challenge is the field that the unread part begins with. -/
theorem SignRequest.challenge_eq_ok_iff {request left : SignRequest} {challenge : Bytes} :
    SignRequest.challenge request = .ok challenge left ↔
      left.key = request.key ∧ challenge.length < 2 ^ 32 ∧
        request.body = Wire.field challenge ++ left.body := by
  rw [← Reader.field_eq_ok_iff, SignRequest.challenge]
  cases hread : Reader.field request.body with
  | error missing rest => simp
  | ok first rest =>
      rcases left with ⟨key, body⟩
      simp only [EStateM.Result.ok.injEq, SignRequest.mk.injEq]
      tauto

namespace Request

/-! ## Behind the length -/

/-- What the bytes behind the length ask for.  A request is told by its opcode; what follows the
opcode of a listing, or the key of a request to sign, is not looked at. -/
inductive Asks : Bytes → Except DecodeError Request → Prop where
  | nothing : Asks [] (.error (.unexpectedEnd ⟨1, 0⟩))
  | listing (more : Bytes) : Asks (Opcode.requestIdentities :: more) (.ok .identities)
  | signature {key : Bytes} (hfits : key.length < 2 ^ 32) (body : Bytes) :
      Asks (Opcode.signRequest :: (Wire.field key ++ body)) (.ok (.sign ⟨key, body⟩))
  /-- Not even the length of the key is there. -/
  | lengthCut {more : Bytes} (hcut : more.length < 4) :
      Asks (Opcode.signRequest :: more) (.error (.unexpectedEnd ⟨4, more.length⟩))
  | keyCut {size : Nat} {front : Bytes} (hfits : size < 2 ^ 32) (hcut : front.length < size) :
      Asks (Opcode.signRequest :: (Bytes.bigEndian 4 size ++ front))
        (.error (.unexpectedEnd ⟨size, front.length⟩))
  | unknown {opcode : UInt8} (hlisting : opcode ≠ Opcode.requestIdentities)
      (hsign : opcode ≠ Opcode.signRequest) (more : Bytes) :
      Asks (opcode :: more) (.error (.unknownOpcode opcode))

theorem exists_asks (rest : Bytes) : ∃ outcome, Asks rest outcome := by
  cases rest with
  | nil => exact ⟨_, .nothing⟩
  | cons opcode more =>
      by_cases hlisting : opcode = Opcode.requestIdentities
      · subst hlisting
        exact ⟨_, .listing more⟩
      by_cases hsign : opcode = Opcode.signRequest
      · subst hsign
        by_cases hlength : 4 ≤ more.length
        · rcases Bytes.exists_bigEndian hlength with ⟨size, front, hsize, rfl⟩
          by_cases hkey : size ≤ front.length
          · rcases Bytes.exists_front hkey with ⟨key, body, rfl, rfl⟩
            rw [← List.append_assoc]
            exact ⟨_, .signature hsize body⟩
          · exact ⟨_, .keyCut hsize (Nat.lt_of_not_le hkey)⟩
        · exact ⟨_, .lengthCut (Nat.lt_of_not_le hlength)⟩
      · exact ⟨_, .unknown hlisting hsign more⟩

/-- The reading of a request to sign behind its opcode. -/
def readSign : EStateM DecodeError Bytes Request := do
  let key ← Reader.field.orElseFail .unexpectedEnd
  return .sign ⟨key, ← get⟩

/-- The reading of a request behind its length. -/
def readBehind : EStateM DecodeError Bytes Request := do
  let opcode ← Reader.byte.orElseFail .unexpectedEnd
  if opcode = Opcode.requestIdentities then return .identities
  else if opcode = Opcode.signRequest then readSign
  else throw (.unknownOpcode opcode)

theorem readBehind_cons (opcode : UInt8) (more : Bytes) :
    readBehind (opcode :: more)
      = (if opcode = Opcode.requestIdentities then pure .identities
          else if opcode = Opcode.signRequest then readSign
          else throw (.unknownOpcode opcode) : EStateM DecodeError Bytes Request) more :=
  bind_ok (adaptExcept_ok (Reader.byte_cons more opcode))

theorem readSign_of_error {more : Bytes} {missing : Shortfall} {left : Bytes}
    (h : Reader.field more = .error missing left) :
    readSign more = .error (.unexpectedEnd missing) left :=
  bind_error (adaptExcept_error h)

theorem Asks.readBehind_eq {rest : Bytes} {outcome : Except DecodeError Request}
    (h : Asks rest outcome) : ∃ left, readBehind rest = settled outcome left := by
  cases h with
  | nothing => exact ⟨[], rfl⟩
  | listing more => exact ⟨more, readBehind_cons _ more⟩
  | @signature key hfits body =>
      have hkey : (Reader.field.orElseFail DecodeError.unexpectedEnd) (Wire.field key ++ body)
          = .ok key body :=
        adaptExcept_ok (Reader.field_eq_ok_iff.2 ⟨hfits, rfl⟩)
      exact ⟨body, (readBehind_cons _ _).trans (bind_ok hkey)⟩
  | @lengthCut more hcut =>
      have hfield : Reader.field more = .error ⟨4, more.length⟩ more :=
        bind_error (Reader.uint32_of_short hcut)
      exact ⟨more, (readBehind_cons _ _).trans (readSign_of_error hfield)⟩
  | @keyCut size front hfits hcut =>
      have hfield : Reader.field (Bytes.bigEndian 4 size ++ front)
          = .error ⟨size, front.length⟩ front := by
        rw [Reader.field_bigEndian hfits, Reader.take_of_short hcut]
      exact ⟨front, (readBehind_cons _ _).trans (readSign_of_error hfield)⟩
  | @unknown opcode hlisting hsign more =>
      refine ⟨more, ?_⟩
      rw [readBehind_cons, if_neg hlisting, if_neg hsign]
      rfl

/-! ## Whole messages -/

theorem decode_of_read {message left : Bytes} {outcome : Except DecodeError Request}
    (h : read message = settled outcome left) : decode message = outcome := by
  rw [decode, h]
  cases outcome with
  | error e => rfl
  | ok request => rfl

section Declared

variable {declared : Nat} {rest : Bytes}

theorem read_bigEndian (hfits : declared < 2 ^ 32) :
    read (Bytes.bigEndian 4 declared ++ rest)
      = if declared = 0 then .error .emptyMessage rest else readBehind rest := by
  have hlength : (Reader.uint32.orElseFail DecodeError.unexpectedEnd)
      (Bytes.bigEndian 4 declared ++ rest) = .ok (UInt32.ofNat declared) rest :=
    adaptExcept_ok (Reader.uint32_bigEndian rest hfits)
  have hzero : UInt32.ofNat declared = 0 ↔ declared = 0 := by
    rw [← UInt32.toNat_inj, UInt32.toNat_ofNat_of_lt' hfits]
    rfl
  rw [read, bind_ok hlength]
  by_cases hempty : declared = 0
  · rw [if_pos (hzero.2 hempty), if_pos hempty]
    rfl
  · rw [if_neg (mt hzero.1 hempty), if_neg hempty]
    rfl

theorem decode_zero (rest : Bytes) :
    decode (Bytes.bigEndian 4 0 ++ rest) = .error .emptyMessage := by
  have hread : read (Bytes.bigEndian 4 0 ++ rest) = .error .emptyMessage rest :=
    read_bigEndian (by decide)
  exact decode_of_read hread

/-- Of the declared length it only matters that it is not zero. -/
theorem decode_eq_iff (hpos : 0 < declared) (hfits : declared < 2 ^ 32)
    {outcome : Except DecodeError Request} :
    decode (Bytes.bigEndian 4 declared ++ rest) = outcome ↔ Asks rest outcome := by
  have hread : read (Bytes.bigEndian 4 declared ++ rest) = readBehind rest := by
    rw [read_bigEndian hfits, if_neg (Nat.ne_of_gt hpos)]
  have hasks : ∀ {outcome}, Asks rest outcome →
      decode (Bytes.bigEndian 4 declared ++ rest) = outcome := by
    intro outcome h
    rcases h.readBehind_eq with ⟨left, hbehind⟩
    exact decode_of_read (hread.trans hbehind)
  constructor
  · rintro rfl
    rcases exists_asks rest with ⟨outcome, h⟩
    rw [hasks h]
    exact h
  · exact hasks

end Declared

theorem decode_of_short {message : Bytes} (h : message.length < 4) :
    decode message = .error (.unexpectedEnd ⟨4, message.length⟩) := by
  have hread : read message = .error (.unexpectedEnd ⟨4, message.length⟩) message :=
    bind_error (adaptExcept_error (Reader.uint32_of_short h))
  exact decode_of_read hread

/-! ## Requests and failures -/

variable {rest key body : Bytes}

theorem asks_listing_iff :
    Asks rest (.ok .identities) ↔ ∃ more, rest = Opcode.requestIdentities :: more := by
  constructor
  · intro h
    cases h with
    | listing more => exact ⟨more, rfl⟩
  · rintro ⟨more, rfl⟩
    exact .listing more

theorem asks_signature_iff :
    Asks rest (.ok (.sign ⟨key, body⟩)) ↔
      key.length < 2 ^ 32 ∧ rest = Opcode.signRequest :: (Wire.field key ++ body) := by
  constructor
  · intro h
    cases h with
    | signature hfits _ => exact ⟨hfits, rfl⟩
  · rintro ⟨hfits, rfl⟩
    exact .signature hfits body

theorem asks_signature_append (hkey : key.length < 2 ^ 32) (challenge suffix : Bytes) :
    Asks (13 :: (Wire.fields [key, challenge] ++ suffix))
      (.ok (.sign ⟨key, Wire.field challenge ++ suffix⟩)) := by
  refine asks_signature_iff.2 ⟨hkey, ?_⟩
  simp [Opcode.signRequest]

/-- A request to sign fails only where its key is cut. -/
theorem exists_asks_of_cut {more : Bytes}
    (hcut : ∀ key body, key.length < 2 ^ 32 → more ≠ Wire.field key ++ body) :
    ∃ missing, missing.remaining < missing.needed ∧
      Asks (Opcode.signRequest :: more) (.error (.unexpectedEnd missing)) := by
  rcases exists_asks (Opcode.signRequest :: more) with ⟨outcome, h⟩
  generalize hrest : Opcode.signRequest :: more = rest at h
  cases h with
  | nothing => cases hrest
  | listing _ => cases hrest
  | @signature key hfits body =>
      injection hrest with _ hmore
      exact absurd hmore (hcut key body hfits)
  | @lengthCut more' hshort => exact ⟨_, hshort, .lengthCut hshort⟩
  | @keyCut size front hfits hshort => exact ⟨_, hshort, .keyCut hfits hshort⟩
  | unknown _ hsign _ =>
      injection hrest with hopcode _
      exact absurd hopcode.symm hsign

/-- A message that is written under its own length is read as what its body asks for, unless the
body is so long that its length is written as zero. -/
theorem decode_envelope {body : Bytes} {outcome : Except DecodeError Request}
    (h : Asks body outcome) :
    decode (Wire.envelope body)
      = if body.length % 2 ^ 32 = 0 then .error .emptyMessage else outcome := by
  have hwritten : Bytes.bigEndian 4 (body.length % 2 ^ 32) = Bytes.bigEndian 4 body.length :=
    Bytes.bigEndian_mod 4 body.length
  have hfits : body.length % 2 ^ 32 < 2 ^ 32 := Nat.mod_lt _ (by decide)
  rw [Wire.envelope, Wire.field, ← hwritten]
  by_cases hzero : body.length % 2 ^ 32 = 0
  · rw [if_pos hzero, hzero]
    exact decode_zero body
  · rw [if_neg hzero]
    exact (decode_eq_iff (Nat.pos_of_ne_zero hzero) hfits).2 h

/-- A message that declares no length is empty, whatever follows; all messages that declare
another one are read alike.  Behind the length, the opcode 11 asks for the keys, and the opcode
13 in front of a whole key for a signature of the challenge that follows the key, if there is
one; anything else is an error.  So a request to sign that is written under its own length comes
back as it was, unless it is so long that this length is written as zero. -/
theorem decode_tells :
    (∀ message : Bytes, message.length < 4 →
      decode message = .error (.unexpectedEnd ⟨4, message.length⟩)) ∧
    (∀ rest, decode (Bytes.bigEndian 4 0 ++ rest) = .error .emptyMessage) ∧
    (∀ declared declared' rest, 0 < declared → declared < 2 ^ 32 → 0 < declared' →
      declared' < 2 ^ 32 →
      decode (Bytes.bigEndian 4 declared ++ rest) = decode (Bytes.bigEndian 4 declared' ++ rest)) ∧
    (∀ declared rest, 0 < declared → declared < 2 ^ 32 →
      let outcome : Except DecodeError Request := decode (Bytes.bigEndian 4 declared ++ rest)
      (outcome = .ok .identities ↔ ∃ more, rest = 11 :: more) ∧
      (∀ key body, outcome = .ok (.sign ⟨key, body⟩) ↔
        key.length < 2 ^ 32 ∧ rest = 13 :: (Wire.field key ++ body)) ∧
      (rest = [] → outcome = .error (.unexpectedEnd ⟨1, 0⟩)) ∧
      (∀ opcode more, rest = opcode :: more → opcode ≠ 11 → opcode ≠ 13 →
        outcome = .error (.unknownOpcode opcode)) ∧
      ∀ more, rest = 13 :: more →
        (∀ key body, key.length < 2 ^ 32 → more ≠ Wire.field key ++ body) →
        ∃ missing, missing.remaining < missing.needed ∧
          outcome = .error (.unexpectedEnd missing)) ∧
    (∀ key body challenge, (∃ left, SignRequest.challenge ⟨key, body⟩ = .ok challenge left) ↔
      challenge.length < 2 ^ 32 ∧ ∃ more, body = Wire.field challenge ++ more) ∧
    ∀ key challenge suffix : Bytes, key.length < 2 ^ 32 → challenge.length < 2 ^ 32 →
      let body : Bytes := 13 :: (Wire.fields [key, challenge] ++ suffix)
      (body.length % 2 ^ 32 ≠ 0 → ∃ request left,
        decode (Wire.envelope body) = .ok (.sign request) ∧ request.key = key ∧
        SignRequest.challenge request = .ok challenge left) ∧
      (body.length % 2 ^ 32 = 0 → decode (Wire.envelope body) = .error .emptyMessage) := by
  refine ⟨fun message => decode_of_short, decode_zero, ?_, ?_, ?_, ?_⟩
  · intro declared declared' rest hpos hfits hpos' hfits'
    -- Both are what the bytes behind the length ask for.
    exact (decode_eq_iff hpos hfits).2 ((decode_eq_iff hpos' hfits').1 rfl)
  · intro declared rest hpos hfits outcome
    have hasks : ∀ outcome', outcome = outcome' ↔ Asks rest outcome' :=
      fun _ => decode_eq_iff hpos hfits
    refine ⟨?_, ?_, ?_, ?_, ?_⟩
    · rw [hasks]
      exact asks_listing_iff
    · intro key body
      rw [hasks]
      exact asks_signature_iff
    · rintro rfl
      exact (hasks _).2 .nothing
    · rintro opcode more rfl hlisting hsign
      exact (hasks _).2 (.unknown hlisting hsign more)
    · rintro more rfl hcut
      rcases exists_asks_of_cut hcut with ⟨missing, hshort, h⟩
      exact ⟨missing, hshort, (hasks _).2 h⟩
  · intro key body challenge
    constructor
    · rintro ⟨left, hread⟩
      rcases SignRequest.challenge_eq_ok_iff.1 hread with ⟨_, hfits, hbody⟩
      exact ⟨hfits, left.body, hbody⟩
    · rintro ⟨hfits, more, hbody⟩
      exact ⟨⟨key, more⟩, SignRequest.challenge_eq_ok_iff.2 ⟨rfl, hfits, hbody⟩⟩
  · intro key challenge suffix hkey hchallenge body
    have hdecode := decode_envelope (asks_signature_append hkey challenge suffix)
    constructor
    · intro hlength
      rw [if_neg hlength] at hdecode
      refine ⟨_, ⟨key, suffix⟩, hdecode, rfl, ?_⟩
      exact SignRequest.challenge_eq_ok_iff.2 ⟨rfl, hchallenge, rfl⟩
    · intro hlength
      rw [if_pos hlength] at hdecode
      exact hdecode

/-- Behind an empty key and an empty challenge there may be so many bytes that the length of the
message is written as zero, and then the message is empty.  So it is where nothing follows this
length, which is not a message that ends too early. -/
theorem not_decode_of_every_suffix :
    (¬ ∀ key challenge suffix : Bytes, key.length < 2 ^ 32 → challenge.length < 2 ^ 32 →
      ∃ request left,
        decode (Wire.envelope (13 :: (Wire.fields [key, challenge] ++ suffix)))
          = .ok (.sign request) ∧
        request.key = key ∧ SignRequest.challenge request = .ok challenge left) ∧
    ¬ ∀ message : Bytes, message.length = 4 →
      ∃ missing, decode message = .error (.unexpectedEnd missing) := by
  constructor
  · intro h
    have hempty : ([] : Bytes).length < 2 ^ 32 := by decide
    have hzeros : ∃ suffix : Bytes, suffix.length = 2 ^ 32 - 9 :=
      ⟨List.replicate (2 ^ 32 - 9) 0, List.length_replicate⟩
    rcases hzeros with ⟨suffix, hsuffix⟩
    rcases h [] [] suffix hempty hempty with ⟨request, left, hdecode, _⟩
    -- The opcode and the two lengths are the nine bytes that are missing from `2 ^ 32`.
    have hlength : (13 :: (Wire.fields [[], []] ++ suffix)).length % 2 ^ 32 = 0 := by
      rw [List.length_cons, List.length_append, hsuffix]
      rfl
    rw [decode_envelope (asks_signature_append hempty [] suffix), if_pos hlength] at hdecode
    cases hdecode
  · intro h
    have hempty : decode [0, 0, 0, 0] = .error .emptyMessage := rfl
    rcases h [0, 0, 0, 0] rfl with ⟨missing, hmissing⟩
    rw [hempty] at hmissing
    cases hmissing

/-- The bytes that the declared length does not cover are the challenge all the same. -/
example :
    decode [0, 0, 0, 1, 13, 0, 0, 0, 1, 0xAA, 0, 0, 0, 1, 0xBB]
      = .ok (.sign ⟨[0xAA], [0, 0, 0, 1, 0xBB]⟩) := rfl

end Request

end TokenAgent
