import TokenAgent.Proofs.Agent.Handler
import TokenAgent.Proofs.Agent.Request
import TokenAgent.Proofs.Signature
import TokenAgent.Proofs.Token.Signing

/-!
# The keys on offer

The keys that a client is shown, and the identity that signs for one of them, are taken from the
identities in two different ways.  They agree: a key that is listed is signed for by the identity
of its first entry (`Agent.find?_eq_some_iff`), and it is the comment of this entry that the path
of the key is derived from; a key that is not listed is refused (`Agent.find?_eq_none_iff`).

* `Agent.CarriesSignature` — a reply from which a client reads a signature;
* `Agent.handle_follows_listing` — what becomes of a request to sign, told by the listing.
-/

namespace TokenAgent

namespace Agent

open Exchange Running Token

section Listing

variable {σ : Type} {a : Agent σ} {key : Bytes} {i : Identity} {n : Nat}

/-- The keys on offer with their comments, in the order in which they are listed. -/
def listed (a : Agent σ) : List (KeyBlob × String) :=
  a.keyed.map fun entry => (entry.2, entry.1.canonical)

/-- Entry number `n` is the first that lists this key, and it is the entry of `i`. -/
structure FirstListed (a : Agent σ) (key : Bytes) (n : Nat) (i : Identity) : Prop where
  entry : ∃ blob : KeyBlob, blob.bytes = key ∧ a.keyed[n]? = some (i, blob) ∧
    a.listed[n]? = some (blob, i.canonical)
  first : ∀ entry ∈ a.listed.take n, entry.1.bytes ≠ key

theorem getElem?_listed {blob : KeyBlob} (h : a.keyed[n]? = some (i, blob)) :
    a.listed[n]? = some (blob, i.canonical) := by
  rw [listed, List.getElem?_map, h]
  rfl

theorem find?_eq_some_iff : a.find? key = some i ↔ ∃ n, FirstListed a key n i := by
  -- The listing and the identities that it is made from have the same keys at the same places.
  have htake : ∀ n, (∀ entry ∈ a.listed.take n, entry.1.bytes ≠ key) ↔
      ∀ entry ∈ a.keyed.take n, entry.2.bytes ≠ key := by
    intro n
    rw [listed, ← List.map_take, List.forall_mem_map]
  rw [find?, Option.map_eq_some_iff]
  constructor
  · rintro ⟨⟨i', blob⟩, hfind, rfl⟩
    rcases List.find?_eq_some_iff_append.1 hfind with ⟨hkey, before, later, hkeyed, hearlier⟩
    have hentry : a.keyed[before.length]? = some (i', blob) := by
      simp [hkeyed]
    refine ⟨before.length, ⟨blob, by simpa using hkey, hentry, getElem?_listed hentry⟩, ?_⟩
    rw [htake, hkeyed, List.take_left' rfl]
    simpa using hearlier
  · -- Conversely the entry splits the identities into those before it and those behind it.
    rintro ⟨n, ⟨blob, hkey, hentry, _⟩, hearlier⟩
    rcases List.getElem?_eq_some_iff.1 hentry with ⟨hn, hat⟩
    refine ⟨(i, blob), List.find?_eq_some_iff_append.2 ⟨by simpa using hkey, ?_⟩, rfl⟩
    refine ⟨a.keyed.take n, a.keyed.drop (n + 1), ?_, ?_⟩
    · rw [← hat, ← List.drop_eq_getElem_cons hn, List.take_append_drop]
    · simpa using (htake n).1 hearlier

theorem find?_eq_none_iff : a.find? key = none ↔ ∀ entry ∈ a.listed, entry.1.bytes ≠ key := by
  rw [find?, Option.map_eq_none_iff, List.find?_eq_none, listed, List.forall_mem_map]
  simp only [beq_iff_eq]

end Listing

/-! ## The challenge of a request -/

/-- The challenge of a request is all there. -/
def HasChallenge (request : SignRequest) (challenge : Bytes) : Prop :=
  challenge.length < 2 ^ 32 ∧ ∃ rest, request.body = Wire.field challenge ++ rest

variable {request : SignRequest} {challenge : Bytes}

theorem challenge_of_has (h : HasChallenge request challenge) :
    ∃ left, SignRequest.challenge request = .ok challenge left := by
  rcases h with ⟨hfits, rest, hbody⟩
  exact ⟨{ request with body := rest }, SignRequest.challenge_eq_ok_iff.2 ⟨rfl, hfits, hbody⟩⟩

theorem challenge_of_none (h : ∀ challenge, ¬ HasChallenge request challenge) :
    ∃ missing left,
      SignRequest.challenge request = .error (.unexpectedEnd missing) left := by
  cases hread : Reader.field request.body with
  | ok challenge rest =>
      rcases Reader.field_eq_ok_iff.1 hread with ⟨hfits, hbody⟩
      exact absurd ⟨hfits, rest, hbody⟩ (h challenge)
  | error missing rest =>
      refine ⟨missing, { request with body := rest }, ?_⟩
      rw [SignRequest.challenge, hread]

/-! ## Replies that carry a signature -/

/-- A reply that is a message of its own, of the kind of signatures, and holds this signature and
nothing else. -/
structure CarriesSignature (reply : Bytes) (signature : Signature) : Prop where
  delimited : Wire.Delimited reply
  opcode : reply[4]? = some 14
  field : Reader.fields 1 (reply.drop 5) = .ok [signature.bytes] []

theorem carriesSignature {signature : Signature} (h : signature.bytes.length < 2 ^ 32 - 5) :
    CarriesSignature (Answer.signature signature) signature := by
  have hbody : (Answer.signature signature).drop 4
      = Opcode.signResponse :: Wire.field signature.bytes :=
    Wire.drop_envelope _
  refine ⟨?_, ?_, ?_⟩
  · refine Wire.delimited_envelope ?_
    rw [List.length_cons, Wire.length_field]
    omega
  · rw [← Nat.add_zero 4, ← List.getElem?_drop, hbody]
    rfl
  · have hfits : ∀ item ∈ [signature.bytes], item.length < 2 ^ 32 := by
      simpa using h.trans (by decide)
    have hfield := Reader.fields_append hfits []
    rw [← List.tail_drop, hbody, List.tail_cons]
    simpa using hfield

/-! ## Requests and the listing -/

theorem signature_ne_failure (signature : Signature) :
    Answer.signature signature ≠ Answer.failure := by
  intro h
  -- Behind their lengths the two answers begin with different opcodes.
  have hbody := congrArg (List.drop 4) h
  have hsignature : (Answer.signature signature).drop 4
      = Opcode.signResponse :: Wire.field signature.bytes :=
    Wire.drop_envelope _
  have hfailure : Answer.failure.drop 4 = [Opcode.failure] :=
    Wire.drop_envelope _
  rw [hsignature, hfailure] at hbody
  injection hbody with hopcode _
  exact absurd hopcode (by decide)

section Requests

variable {σ : Type} [Transport σ] {message : Bytes} {i : Identity} {n : Nat}

theorem sign_settled {a : Agent σ} {outcome : Except Error Signature} {token : σ}
    (h : Token.sign a.timing i challenge a.token = settled outcome token) :
    sign i challenge a = settled outcome { a with token := token } := by
  have hsign : sign i challenge a = onToken (Token.sign a.timing i challenge) a := rfl
  rw [hsign, onToken, h]
  cases outcome with
  | ok signature => rfl
  | error e => rfl

/-- A signature fits into a reply. -/
theorem carriesSignature_of_sign {a after : Agent σ} {signature : Signature}
    (h : sign i challenge a = .ok signature after) :
    CarriesSignature (Answer.signature signature) signature := by
  rcases exists_settled (Token.sign a.timing i challenge) a.token with ⟨outcome, token, htoken⟩
  rw [sign_settled htoken] at h
  cases outcome with
  | error e => cases h
  | ok told =>
      cases h
      rcases exists_payload_of_sign htoken with ⟨payload, hpayload⟩
      have hname : (Utf8.encode i.keyType.sshName).length = 19 := by
        cases i.keyType
        decide
      have hlength := Signature.length_of_ofResponse hpayload
      refine carriesSignature ?_
      omega

variable (h : Request.decode message = .ok (.sign request))

include h

/-- A request for a key on offer is carried out with the identity of its first entry. -/
theorem handle_listed {a : Agent σ} (hlisted : FirstListed a request.key n i)
    (hchallenge : HasChallenge request challenge) :
    handle message a = (do return Answer.signature (← sign i challenge)) a := by
  rcases challenge_of_has hchallenge with ⟨left, hread⟩
  exact handle_readable h (find?_eq_some_iff.2 ⟨n, hlisted⟩) hread

theorem handle_listed_of_ok {a after : Agent σ} {signature : Signature}
    (hlisted : FirstListed a request.key n i) (hchallenge : HasChallenge request challenge)
    (hsign : sign i challenge a = .ok signature after) :
    handle message a = .ok (Answer.signature signature) after := by
  rw [handle_listed h hlisted hchallenge, bind_ok hsign]
  rfl

theorem handle_listed_of_error {a after : Agent σ} {e : Error}
    (hlisted : FirstListed a request.key n i) (hchallenge : HasChallenge request challenge)
    (hsign : sign i challenge a = .error e after) : handle message a = .error e after := by
  rw [handle_listed h hlisted hchallenge, bind_error hsign]

/-- A request for a key on offer is signed for, or fails; it is not turned down. -/
theorem handle_listed_ne_failure {a after : Agent σ} (hlisted : FirstListed a request.key n i)
    (hchallenge : HasChallenge request challenge) :
    handle message a ≠ .ok Answer.failure after := by
  intro hfailure
  -- Either there is a signature, which is another answer, or there is no answer.
  cases hsign : sign i challenge a with
  | ok signature after' =>
      rw [handle_listed_of_ok h hlisted hchallenge hsign] at hfailure
      injection hfailure with hanswer _
      exact signature_ne_failure signature hanswer
  | error e after' =>
      rw [handle_listed_of_error h hlisted hchallenge hsign] at hfailure
      cases hfailure

theorem handle_listed_without_challenge {a : Agent σ} (hlisted : FirstListed a request.key n i)
    (hnone : ∀ challenge, ¬ HasChallenge request challenge) :
    ∃ missing, handle message a = .error (.decode (.unexpectedEnd missing)) a := by
  rcases challenge_of_none hnone with ⟨missing, left, hread⟩
  exact ⟨missing, handle_unreadable h (find?_eq_some_iff.2 ⟨n, hlisted⟩) hread⟩

/-- The first command that a token gets for a request names the key of the first entry. -/
theorem handle_listed_simulated {a : Agent Simulator} (hready : Ready a.token)
    (hlisted : FirstListed a request.key n i) (hchallenge : HasChallenge request challenge) :
    ∃ outcome token length later,
      handle message a = settled outcome { a with token := token } ∧
      token.commands = a.token.commands ++ ([0x80, 0x04, 0x00, 0x81, length]
        ++ ((DerivationPath.ofCanonical i.canonical .signing).toBytes ++ challenge.take 234))
          :: later := by
  -- However many commands are sent, they are the first ones of the challenge.
  rcases sign_sends a.timing i challenge a.token with ⟨n, outcome, hpos, _, hsign⟩
  rcases exists_first_command i challenge with ⟨length, first, more, hcommands, hfirst⟩
  have hlog := ((sent_after a.timing a.token ((signCommands i challenge).take n)).log hready).2.2
  have hhandle : handle message a
      = settled (outcome >>= fun signature => .ok (Answer.signature signature)) _ :=
    (handle_listed h hlisted hchallenge).trans (bind_settled (sign_settled hsign) fun _ => rfl)
  refine ⟨_, _, length, (more.take (n - 1)).map Command.toBytes, hhandle, ?_⟩
  rw [hlog, hcommands]
  cases n with
  | zero => exact absurd hpos (Nat.lt_irrefl 0)
  | succ n =>
      rw [List.take_succ_cons, List.map_cons, hfirst]
      rfl

end Requests

variable {message : Bytes}

theorem exists_firstListed {σ : Type} {a : Agent σ} {key : Bytes}
    (h : ∃ entry ∈ a.listed, entry.1.bytes = key) : ∃ n i, FirstListed a key n i := by
  cases hfind : a.find? key with
  | none =>
      rcases h with ⟨entry, hmem, hkey⟩
      exact absurd hkey (find?_eq_none_iff.1 hfind entry hmem)
  | some i =>
      rcases find?_eq_some_iff.1 hfind with ⟨n, hlisted⟩
      exact ⟨n, i, hlisted⟩

/-- What becomes of a request to sign is told by the answer that lists the keys.  A key that is
not listed is turned down, before its challenge is read and with nothing changed.  A key that is
listed is signed for by the identity of its first entry, and never turned down; a client reads the
signature off the reply.  If there is no challenge to sign, the request fails with nothing
changed. -/
theorem handle_follows_listing (h : Request.decode message = .ok (.sign request)) :
    Answer.failure = [0, 0, 0, 1, 5] ∧
    (∀ (σ : Type) [Transport σ] (a : Agent σ),
      (∀ other, Request.decode other = .ok .identities →
        handle other a = .ok (Answer.identities a.listed) a) ∧
      ((∀ entry ∈ a.listed, entry.1.bytes ≠ request.key) →
        handle message a = .ok Answer.failure a) ∧
      ((∃ entry ∈ a.listed, entry.1.bytes = request.key) → ∃ n i,
        FirstListed a request.key n i ∧
        (∀ challenge, HasChallenge request challenge →
          (∀ after, handle message a ≠ .ok Answer.failure after) ∧
          (∀ signature after, sign i challenge a = .ok signature after →
            handle message a = .ok (Answer.signature signature) after ∧
            CarriesSignature (Answer.signature signature) signature) ∧
          ∀ e after, sign i challenge a = .error e after → handle message a = .error e after) ∧
        ((∀ challenge, ¬ HasChallenge request challenge) →
          ∃ missing, handle message a = .error (.decode (.unexpectedEnd missing)) a))) ∧
    ∀ (a : Agent Simulator) (n : Nat) (i : Identity) (challenge : Bytes),
      Ready a.token → FirstListed a request.key n i → HasChallenge request challenge →
      ∃ outcome token length later,
        handle message a = settled outcome { a with token := token } ∧
        token.commands = a.token.commands ++ ([0x80, 0x04, 0x00, 0x81, length]
          ++ ((DerivationPath.ofCanonical i.canonical .signing).toBytes ++ challenge.take 234))
            :: later := by
  refine ⟨by decide, ?_, ?_⟩
  · intro σ _ a
    refine ⟨?_, ?_, ?_⟩
    · intro other hother
      exact handle_identities hother
    · intro hunlisted
      exact handle_unknown h (find?_eq_none_iff.2 hunlisted)
    · intro hoffered
      rcases exists_firstListed hoffered with ⟨n, i, hlisted⟩
      refine ⟨n, i, hlisted, ?_, ?_⟩
      · intro challenge hchallenge
        refine ⟨?_, ?_, ?_⟩
        · intro after
          exact handle_listed_ne_failure h hlisted hchallenge
        · intro signature after hsign
          exact ⟨handle_listed_of_ok h hlisted hchallenge hsign, carriesSignature_of_sign hsign⟩
        · intro e after hsign
          exact handle_listed_of_error h hlisted hchallenge hsign
      · intro hnone
        exact handle_listed_without_challenge h hlisted hnone
  · intro a n i challenge hready hlisted hchallenge
    exact handle_listed_simulated h hready hlisted hchallenge

/-- Of two entries with one key it is the first that is signed for; the identity before them has
no key and is not listed. -/
theorem handle_follows_listing_duplicate :
    let message : Bytes := [0, 0, 0, 12, 13, 0, 0, 0, 1, 0x0A, 0, 0, 0, 2, 0x01, 0x02]
    let request : SignRequest := ⟨[0x0A], [0, 0, 0, 2, 0x01, 0x02]⟩
    let one : Identity := { Identity.ofHost "one" with key := some ⟨[0x0A]⟩ }
    let two : Identity := { Identity.ofHost "two" with key := some ⟨[0x0A]⟩ }
    let token := { Simulator.fresh with
      script := [.raw (Frame.wire [0x30, 6, 0x02, 1, 0x11, 0x02, 1, 0x22, 0x90, 0x00])] }
    let a : Agent Simulator := ⟨token, Timing.default, [Identity.ofHost "zero", one, two]⟩
    let signature : Signature :=
      ⟨Wire.fields [Utf8.encode "ecdsa-sha2-nistp256", Wire.fields [[0x11], [0x22]]]⟩
    Request.decode message = .ok (.sign request) ∧
    ∃ after reply length, handle message a = .ok reply after ∧
      Wire.Delimited reply ∧ reply[4]? = some 14 ∧
      Reader.fields 1 (reply.drop 5) = .ok [signature.bytes] [] ∧
      after.token.commands.head? = some ([0x80, 0x04, 0x00, 0x81, length]
        ++ ((DerivationPath.ofCanonical one.canonical .signing).toBytes ++ [0x01, 0x02])) := by
  intro message request one two token a signature
  have hdecode : Request.decode message = .ok (.sign request) := rfl
  have hlisted : FirstListed a request.key 0 one := by
    refine ⟨⟨⟨[0x0A]⟩, rfl, rfl, rfl⟩, ?_⟩
    intro entry hmem
    cases hmem
  have hchallenge : HasChallenge request [0x01, 0x02] := ⟨by decide, [], rfl⟩
  have hready : Ready a.token := ⟨rfl, rfl⟩
  have hanswered : answered Timing.default.readTimeout token.script[0]?
      = .ok ⟨[0x30, 6, 0x02, 1, 0x11, 0x02, 1, 0x22], .success⟩ :=
    answered_wire _ (by decide)
  have htold : (Signature.ofResponse one.keyType.sshName
      [0x30, 6, 0x02, 1, 0x11, 0x02, 1, 0x22]).mapError Error.codec = .ok signature := rfl
  have hsign : sign one [0x01, 0x02] a = settled (.ok signature) { a with token := _ } :=
    sign_settled (htold ▸ sign_of_short hready (by decide) (by decide) hanswered)
  rcases handle_follows_listing hdecode with ⟨_, hany, hsimulated⟩
  rcases hlisted.entry with ⟨blob, hkey, _, hentry⟩
  rcases (hany Simulator a).2.2 ⟨_, List.mem_of_getElem? hentry, hkey⟩ with
    ⟨n, i, hfirst, hreplies, _⟩
  have hi : i = one := by
    have hfind := find?_eq_some_iff.2 ⟨n, hfirst⟩
    rw [find?_eq_some_iff.2 ⟨0, hlisted⟩] at hfind
    exact (Option.some.inj hfind).symm
  subst hi
  rcases (hreplies [0x01, 0x02] hchallenge).2.1 signature _ hsign with ⟨hhandle, hcarries⟩
  rcases hsimulated a 0 _ [0x01, 0x02] hready hlisted hchallenge with
    ⟨outcome, left, length, later, hsettled, hlog⟩
  have hsame : settled (.ok (Answer.signature signature)) _
      = settled outcome { a with token := left } := hhandle.symm.trans hsettled
  refine ⟨hdecode, _, _, length, hhandle, hcarries.delimited, hcarries.opcode, hcarries.field, ?_⟩
  rw [(settled_inj.1 hsame).2, hlog]
  rfl

end Agent

end TokenAgent
