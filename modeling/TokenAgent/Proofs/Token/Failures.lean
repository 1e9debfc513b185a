import TokenAgent.Proofs.Agent.Handler
import TokenAgent.Proofs.Agent.Request
import TokenAgent.Proofs.Token.KeyRequest

/-!
# Ways to fail

What an operation of the token can fail with, over any transport at all and whatever is signed.
A packet of the token that is cut is waited for, and everything that the agent sends fits, so of
the faults of frames, commands and messages only some can ever be met.

* `FramingError.Mismatch` — the faults of packets, all found by the check of a header;
* `Exchange.Failure`, `Exchange.run_fails` — failures of one exchange;
* `Token.SignFailure`, `Token.sign_fails` — failures of signing;
* `Token.KeyFailure`, `Token.publicKey_fails` — failures of asking for a key;
* `Agent.HandleFailure`, `Agent.handle_fails` — failures of answering a message.
-/

namespace TokenAgent

open Running

/-! ## Packets -/

/-- A packet that is not the one that is expected. -/
inductive FramingError.Mismatch : FramingError → Prop where
  | channel {found : UInt16} (h : found ≠ Frame.channel) : Mismatch (.channelMismatch found)
  | tag {found : UInt8} (h : found ≠ Frame.tag) : Mismatch (.tagMismatch found)
  | sequence {expected found : UInt16} (h : found ≠ expected) :
      Mismatch (.sequenceMismatch expected found)

namespace Frame

theorem Header.mismatch_of_check {h : Header} {k : UInt16} {e : FramingError}
    (hcheck : h.check k = .error e) : e.Mismatch := by
  rw [check] at hcheck
  by_cases hchannel : h.channel ≠ Frame.channel
  · rw [if_pos hchannel] at hcheck
    cases hcheck
    exact .channel hchannel
  · rw [if_neg hchannel] at hcheck
    by_cases htag : h.tag ≠ Frame.tag
    · rw [if_pos htag] at hcheck
      cases hcheck
      exact .tag htag
    · rw [if_neg htag] at hcheck
      by_cases hsequence : h.sequence ≠ k
      · rw [if_pos hsequence] at hcheck
        cases hcheck
        exact .sequence hsequence
      · rw [if_neg hsequence] at hcheck
        cases hcheck

/-- Of the two ways in which bytes are at fault, each is a wrong header. -/
theorem mismatch_of_assemble {raw : Bytes} {e : FramingError} (h : assemble raw = .error e) :
    e.Mismatch := by
  have hreading := assemble_eq_iff.1 h
  cases hreading with
  | firstFault _ hcheck => exact Header.mismatch_of_check hcheck
  | laterFault _ _ _ _ hcheck _ => exact Header.mismatch_of_check hcheck

end Frame

/-! ## Exchanges -/

namespace Exchange

open TokenAgent.Frame

/-- What an exchange can fail with. -/
inductive Failure : Error → Prop where
  | transport (e : TransportError) : Failure (.transport e)
  | packet {e : FramingError} (h : e.Mismatch) : Failure (.framing e)
  | missingStatus {length : Nat} (h : length < 2) : Failure (.framing (.missingStatus length))

variable {σ : Type} [Transport σ]

theorem offer_fails (p : Packet) : FailsWith Failure (offer (σ := σ) p) := by
  rw [offer]
  refine (failsWith_adaptExcept _ fun fault => .transport (.writeFailed fault)).bind ?_
  intro accepted
  split
  · exact failsWith_pure Failure ()
  · exact failsWith_throw (.transport _)

/-- Every command can be packed, so only the transport can fail. -/
theorem send_fails (command : Command) : FailsWith Failure (send (σ := σ) command) := by
  intro s e s' hrun
  rw [send_eq] at hrun
  exact failsWith_forM offer_fails s e s' hrun

theorem receiveWithin_fails (deadline wait : Duration) (reads : Nat) (buffer : Buffer) :
    FailsWith Failure (receiveWithin (σ := σ) deadline reads wait buffer) := by
  induction reads generalizing wait buffer with
  | zero => exact failsWith_throw (.transport (.timeout deadline))
  | succ reads ih =>
      rw [receiveWithin]
      refine (failsWith_adaptExcept _ fun fault => .transport (.readFailed fault)).bind ?_
      intro arrival
      split
      · exact ih .zero buffer
      · exact ih .zero buffer
      next chunk _ =>
        simp only [Buffer.push]
        cases hanswer : assemble (buffer.bytes ++ chunk) with
        | error e => exact failsWith_throw (.packet (mismatch_of_assemble hanswer))
        | ok assembly =>
            cases assembly with
            | incomplete => exact ih .zero _
            | complete message => exact failsWith_pure Failure message

theorem missingStatus_of_ofMessage {message : Bytes} {e : FramingError}
    (h : Response.ofMessage message = .error e) : Failure (.framing e) := by
  rw [Response.ofMessage] at h
  by_cases hshort : message.length < 2
  · rw [if_pos hshort] at h
    cases h
    exact .missingStatus hshort
  · rw [if_neg hshort] at h
    cases h

theorem run_fails (timing : Timing) (command : Command) :
    FailsWith Failure (run (σ := σ) timing command) := by
  rw [run]
  refine (send_fails command).bind fun _ => ?_
  refine FailsWith.bind ?_ fun message => failsWith_attempt fun e => missingStatus_of_ofMessage
  intro s e s' hrun
  exact receiveWithin_fails _ _ _ _ s e s' hrun

end Exchange

/-! ## Operations of the token -/

namespace Token

variable {σ : Type} [Transport σ]

/-- What signing can fail with: an exchange, a refusal, or a signature that is cut. -/
inductive SignFailure : Error → Prop where
  | exchange {e : Error} (h : Exchange.Failure e) : SignFailure e
  | refused {status : Status} (h : status ≠ .success) : SignFailure (.status status)
  | signature (missing : Shortfall) : SignFailure (.codec (.malformedSignature missing))

/-- What asking for a key can fail with: an exchange, a refusal, or a response without a point. -/
inductive KeyFailure : Error → Prop where
  | exchange {e : Error} (h : Exchange.Failure e) : KeyFailure e
  | refused {status : Status} (h : status ≠ .success) (hmore : status.isMoreData = false) :
      KeyFailure (.status status)
  | short {length : Nat} (h : length < 66) : KeyFailure (.codec (.malformedPublicKey length))
  | point : KeyFailure (.codec .invalidPoint)

theorem ne_success_of_isSuccess {status : Status} (h : ¬ status.isSuccess = true) :
    status ≠ .success := by
  rintro rfl
  exact h rfl

theorem signChunks_fails (timing : Timing) (i : Identity) (last : Bytes) {payloads : List Bytes}
    (hfits : ∀ payload ∈ payloads, payload.length ≤ Command.maxPayload) :
    FailsWith SignFailure (signChunks (σ := σ) timing i last payloads) := by
  induction payloads generalizing last with
  | nil => exact failsWith_pure SignFailure last
  | cons payload rest ih =>
      rw [signChunks]
      -- There is a command for each payload, so only its exchange can fail.
      have hcommand : ∀ e, signCommand i payload = .error e → SignFailure (.codec e) := by
        intro e hfault
        rw [signCommand, Command.ofPayload, dif_pos (hfits payload List.mem_cons_self)] at hfault
        cases hfault
      refine (failsWith_attempt hcommand).bind fun command => ?_
      refine ((Exchange.run_fails timing command).mono fun _ => .exchange).bind fun response => ?_
      by_cases hstatus : response.status.isSuccess = true
      · rw [if_pos hstatus]
        exact ih response.payload fun p hmem => hfits p (List.mem_cons_of_mem payload hmem)
      · rw [if_neg hstatus]
        exact failsWith_throw (.refused (ne_success_of_isSuccess hstatus))

theorem sign_fails (timing : Timing) (i : Identity) (challenge : Bytes) :
    FailsWith SignFailure (sign (σ := σ) timing i challenge) := by
  rw [sign]
  refine FailsWith.bind ?_ fun signature => failsWith_attempt fun e hfault => ?_
  · exact signChunks_fails timing i [] fun _ => Bytes.length_le_of_mem_chunks (by decide)
  · rw [Signature.ofResponse] at hfault
    cases hread : Signature.readIntegers signature with
    | ok integers rest =>
        rw [hread] at hfault
        cases hfault
    | error missing rest =>
        rw [hread] at hfault
        cases hfault
        exact .signature missing

theorem compressedOfResponse_fault {payload : Bytes} {e : CodecError}
    (h : Point.compressedOfResponse payload = .error e) : KeyFailure (.codec e) := by
  rw [Point.compressedOfResponse] at h
  cases hlast : payload[2 * Point.coordinateSize + 1]? with
  | none =>
      rw [hlast] at h
      cases h
      exact .short (Nat.lt_succ_of_le (List.getElem?_eq_none_iff.1 hlast))
  | some last =>
      rw [hlast] at h
      cases h

theorem decompress_fault {compressed : Bytes} {e : CodecError}
    (h : Point.decompress compressed = .error e) : KeyFailure (.codec e) := by
  cases compressed with
  | nil =>
      cases h
      exact .point
  | cons head x =>
      rw [Point.decompress] at h
      cases hparity : Point.parity? head with
      | none =>
          rw [hparity] at h
          cases h
          exact .point
      | some odd =>
          by_cases hsize : x.length = Point.coordinateSize
          · cases hpoint : P256.liftX? (Bytes.ofBigEndian x) odd with
            | none =>
                simp only [hparity, if_pos hsize, hpoint] at h
                cases h
                exact .point
            | some y =>
                simp only [hparity, if_pos hsize, hpoint] at h
                cases h
          · simp only [hparity, if_neg hsize] at h
            cases h
            exact .point

theorem keyOfResponse_fails {τ : Type} (keyType : KeyType) (payload : Bytes) :
    FailsWith KeyFailure
      (Error.attempt .codec (keyOfResponse keyType payload) : EStateM Error τ KeyBlob) := by
  rw [keyOfResponse, attempt_bind]
  refine (failsWith_attempt fun e => compressedOfResponse_fault).bind fun compressed => ?_
  rw [attempt_bind]
  refine (failsWith_attempt fun e => decompress_fault).bind fun point => ?_
  exact failsWith_pure KeyFailure _

theorem publicKey_fails (timing : Timing) (i : Identity) :
    FailsWith KeyFailure (publicKey (σ := σ) timing i) := by
  have hcommand : ∀ e, keyCommand i = .error e → KeyFailure (.codec e) := by
    intro e hfault
    rw [keyCommand_eq] at hfault
    cases hfault
  rw [publicKey]
  refine (failsWith_attempt hcommand).bind fun command => ?_
  refine ((Exchange.run_fails timing command).mono fun _ => .exchange).bind fun response => ?_
  by_cases haccepted : (response.status.isSuccess || response.status.isMoreData) = true
  · rw [if_pos haccepted]
    exact keyOfResponse_fails i.keyType response.payload
  · rw [if_neg haccepted]
    rw [Bool.or_eq_true, not_or, Bool.not_eq_true, Bool.not_eq_true] at haccepted
    refine failsWith_throw (.refused (ne_success_of_isSuccess ?_) haccepted.2)
    rw [haccepted.1]
    decide

end Token

/-! ## Messages -/

namespace Agent

/-- What answering a message can fail with: a message that is cut, empty or of an unknown kind,
or signing. -/
inductive HandleFailure : Error → Prop where
  | cut (missing : Shortfall) : HandleFailure (.decode (.unexpectedEnd missing))
  | empty : HandleFailure (.decode .emptyMessage)
  | unknown (opcode : UInt8) : HandleFailure (.decode (.unknownOpcode opcode))
  | sign {e : Error} (h : Token.SignFailure e) : HandleFailure e

theorem decode_fault {message : Bytes} {e : DecodeError} (h : Request.decode message = .error e) :
    HandleFailure (.decode e) := by
  by_cases hshort : message.length < 4
  · rw [Request.decode_of_short hshort] at h
    cases h
    exact .cut _
  · rcases Bytes.exists_bigEndian (Nat.le_of_not_lt hshort) with ⟨declared, rest, hfits, rfl⟩
    rcases Nat.eq_zero_or_pos declared with rfl | hpos
    · rw [Request.decode_zero] at h
      cases h
      exact .empty
    · -- Behind a length that is not zero, the error tells where the request went wrong.
      have hasks : Request.Asks rest (.error e) := (Request.decode_eq_iff hpos hfits).1 h
      cases hasks with
      | nothing => exact .cut _
      | lengthCut _ => exact .cut _
      | keyCut _ _ => exact .cut _
      | unknown _ _ _ => exact .unknown _

theorem challenge_fault {request left : SignRequest} {e : DecodeError}
    (h : SignRequest.challenge request = .error e left) : HandleFailure (.decode e) := by
  rw [SignRequest.challenge] at h
  cases hread : Reader.field request.body with
  | ok challenge rest =>
      rw [hread] at h
      cases h
  | error missing rest =>
      rw [hread] at h
      cases h
      exact .cut missing

theorem onToken_fails {σ α : Type} {P : Error → Prop} {operation : EStateM Error σ α}
    (h : FailsWith P operation) : FailsWith P (onToken operation) := by
  intro a e a' hrun
  rw [onToken] at hrun
  cases hoperation : operation a.token with
  | ok result token =>
      rw [hoperation] at hrun
      cases hrun
  | error e' token =>
      rw [hoperation] at hrun
      cases hrun
      exact h a.token e token hoperation

variable {σ : Type} [Transport σ]

theorem sign_fails (i : Identity) (challenge : Bytes) :
    FailsWith Token.SignFailure (sign i challenge : EStateM Error (Agent σ) Signature) := by
  intro a e a' hrun
  exact onToken_fails (Token.sign_fails a.timing i challenge) a e a' hrun

theorem handle_fails (message : Bytes) :
    FailsWith HandleFailure (handle message : EStateM Error (Agent σ) Bytes) := by
  intro a e a' hrun
  cases hdecode : Request.decode message with
  | error fault =>
      rw [handle_of_error hdecode] at hrun
      cases hrun
      exact decode_fault hdecode
  | ok request =>
      cases request with
      | identities =>
          rw [handle_identities hdecode] at hrun
          cases hrun
      | sign request =>
          cases hkey : a.find? request.key with
          | none =>
              rw [handle_unknown hdecode hkey] at hrun
              cases hrun
          | some i =>
              cases hchallenge : SignRequest.challenge request with
              | error fault left =>
                  rw [handle_unreadable hdecode hkey hchallenge] at hrun
                  cases hrun
                  exact challenge_fault hchallenge
              | ok challenge left =>
                  rw [handle_readable hdecode hkey hchallenge] at hrun
                  have hsign : FailsWith Token.SignFailure
                      (sign i challenge : EStateM Error (Agent σ) Signature) :=
                    sign_fails i challenge
                  have hanswer := hsign.bind fun signature =>
                    failsWith_pure Token.SignFailure (Answer.signature signature)
                  exact .sign (hanswer a e a' hrun)

end Agent

end TokenAgent
