import TokenAgent.Proofs.Checked.Frame
import TokenAgent.Proofs.Checked.Payload
import TokenAgent.Proofs.Token.Failures

/-!
# Operations of the token with checked accesses

An exchange, asking for a key and signing, made of accesses that are checked.  A challenge is cut
at an offset that grows with every command.  Over any transport and for any challenge, each of
these operations does what it does without checks (`Checked.run_eq`, `Checked.publicKey_eq`,
`Checked.sign_eq`), so it is never out of range.  Neither does it fail in a way that only a fault
of the agent itself could cause (`Token.operations_fail_in_range`).
-/

namespace TokenAgent

namespace Checked

open TokenAgent.Frame Running

variable {σ : Type} [Transport σ]

/-! ## Exchanges -/

/-- Write one packet, which has to be taken whole. -/
def offer (frame : Bytes) : EStateM (Stop Error) σ Unit := do
  let report ← access (report? frame)
  let accepted ← lift ((Transport.write report).adaptExcept fun fault =>
    .transport (.writeFailed fault))
  if accepted = report.length then return ()
  else throw (.failed (.transport (.writeFailed (.shortWrite accepted report.length))))

/-- Write a command. -/
def send (command : Command) : EStateM (Stop Error) σ Unit := do
  let frames ← attempt .framing (pack? command.toBytes)
  frames.forM offer

/-- Read at most `reads` times, and assemble what arrives. -/
def receiveWithin (deadline : Duration) :
    (reads : Nat) → (wait : Duration) → Bytes → EStateM (Stop Error) σ Bytes
  | 0, _, _ => throw (.failed (.transport (.timeout deadline)))
  | reads + 1, wait, buffer => do
      let arrival ← lift ((Transport.read wait).adaptExcept fun fault =>
        .transport (.readFailed fault))
      match arrival with
      | none | some [] => receiveWithin deadline reads .zero buffer
      | some chunk =>
          match ← attempt .framing (assemble? (buffer ++ chunk)) with
          | .complete message => return message
          | .incomplete => receiveWithin deadline reads .zero (buffer ++ chunk)

/-- Send a command and wait for its response, whatever its status. -/
def run (timing : Timing) (command : Command) : EStateM (Stop Error) σ Response := do
  send command
  let deadline := timing.readTimeout
  let message ← receiveWithin deadline
    (Exchange.readsWithin deadline (Transport.backlog (← get))) deadline []
  attempt .framing (response? message)

theorem offer_eq {p : Packet} (h : p.body.length ≤ laterRoom) :
    (offer p.toBytes : EStateM (Stop Error) σ Unit) = lift (Exchange.offer p) := by
  rw [offer, Exchange.offer, report?_eq h, access_some, pure_bind, lift_bind]
  refine bind_congr fun accepted => ?_
  rw [lift_ite]
  rfl

theorem forM_offer_eq {ps : List Packet} (h : ∀ p ∈ ps, p.body.length ≤ laterRoom) :
    ((ps.map Packet.toBytes).forM offer : EStateM (Stop Error) σ Unit)
      = lift (ps.forM Exchange.offer) := by
  induction ps with
  | nil => rfl
  | cons p rest ih =>
      have hrest := ih fun q hmem => h q (List.mem_cons_of_mem p hmem)
      have hfirst := offer_eq (σ := σ) (h p List.mem_cons_self)
      change (offer p.toBytes >>= fun _ => (rest.map Packet.toBytes).forM offer) = _
      rw [hfirst, hrest, ← lift_bind]
      rfl

theorem send_eq (command : Command) :
    (send command : EStateM (Stop Error) σ Unit) = lift (Exchange.send command) := by
  have hfits : pack command.toBytes = .ok (packets command.toBytes) := by
    rw [pack, if_pos command.length_toBytes_le]
  rw [send, Exchange.send, pack?_eq, hfits]
  exact forM_offer_eq fun p hmem => body_length_le hmem

theorem receiveWithin_eq (deadline wait : Duration) (reads : Nat) (buffer : Bytes) :
    (receiveWithin deadline reads wait buffer : EStateM (Stop Error) σ Bytes)
      = lift (Exchange.receiveWithin deadline reads wait ⟨buffer⟩) := by
  induction reads generalizing wait buffer with
  | zero => rfl
  | succ reads ih =>
      rw [receiveWithin, Exchange.receiveWithin, lift_bind]
      refine bind_congr fun arrival => ?_
      cases arrival with
      | none => exact ih .zero buffer
      | some chunk =>
          cases chunk with
          | nil => exact ih .zero buffer
          | cons b more =>
              simp only [assemble?_eq, attempt_some, Buffer.push, ih]
              cases assemble (buffer ++ b :: more) with
              | error e => rfl
              | ok assembly =>
                  cases assembly with
                  | incomplete => rfl
                  | complete message => rfl

theorem run_eq (timing : Timing) (command : Command) :
    (run timing command : EStateM (Stop Error) σ Response)
      = lift (Exchange.run timing command) := by
  rw [run, Exchange.run, send_eq, lift_bind]
  simp only [Exchange.receive, lift_bind, bind_assoc, receiveWithin_eq, response?_eq, attempt_some]
  rfl

/-! ## Keys -/

/-- Ask for the public key of an identity. -/
def publicKey (timing : Timing) (i : Identity) : EStateM (Stop Error) σ KeyBlob := do
  let path ← access (path? i.canonical .signing)
  let command ← lift (Error.attempt .codec (Command.ofPayload Command.agentClass
    Command.getPublicKey 0 i.keyType.keyParameter path.toBytes))
  let response ← run timing command
  if response.status.isSuccess || response.status.isMoreData then
    let compressed ← attempt .codec (compressed? response.payload)
    let point ← attempt .codec (decompress? compressed)
    return KeyBlob.ofCoordinates i.keyType.sshName i.keyType.curveName point
  else throw (.failed (.status response.status))

theorem publicKey_eq (timing : Timing) (i : Identity) :
    (publicKey timing i : EStateM (Stop Error) σ KeyBlob) = lift (Token.publicKey timing i) := by
  rw [publicKey, Token.publicKey, path?_eq, access_some, pure_bind, lift_bind]
  refine bind_congr fun command => ?_
  rw [run_eq, lift_bind]
  refine bind_congr fun response => ?_
  rw [lift_ite]
  simp only [Token.keyOfResponse, attempt_bind, lift_bind, compressed?_eq, decompress?_eq,
    attempt_some]
  rfl

/-! ## Signatures -/

/-- What is left to do: the bytes of a challenge from an offset on, and one command at least. -/
def toSend (challenge : Bytes) (offset : Nat) (last : Option Bytes) : Nat :=
  challenge.length - offset + if last.isNone then 1 else 0

/-- Send a challenge from an offset on; `last` is what the command before was answered with.  The
first command begins with the path of the key.  A command that brings the end no nearer would be
followed by others for ever. -/
def signFrom (timing : Timing) (i : Identity) (path challenge : Bytes) (offset : Nat)
    (last : Option Bytes) : EStateM (Stop Error) σ Bytes :=
  if last.isSome ∧ challenge.length ≤ offset then return last.getD []
  else do
    let start := if offset = 0 then path else []
    let n := min (← access (sub? challenge.length offset))
      (← access (sub? Command.maxPayload start.length))
    let block ← access (slice? challenge offset (offset + n))
    let command ← lift (Error.attempt .codec (Token.signCommand i (start ++ block)))
    let response ← run timing command
    if response.status.isSuccess then
      if _h : toSend challenge (offset + n) (some response.payload)
          < toSend challenge offset last then
        signFrom timing i path challenge (offset + n) (some response.payload)
      else throw .outOfRange
    else throw (.failed (.status response.status))
termination_by toSend challenge offset last

/-- Sign a challenge with the key of an identity. -/
def sign (timing : Timing) (i : Identity) (challenge : Bytes) :
    EStateM (Stop Error) σ Signature := do
  let path ← access (path? i.canonical .signing)
  let signature ← signFrom timing i path.toBytes challenge 0 none
  attempt .codec (signature? i.keyType.sshName signature)

variable {timing : Timing} {i : Identity} {path challenge : Bytes}

/-- One command takes as much of the challenge as it has room for, and this brings the end
nearer. -/
theorem signFrom_step {start : Bytes} {offset : Nat} {last : Option Bytes}
    (hstart : start = if offset = 0 then path else []) (hroom : start.length < Command.maxPayload)
    (hle : offset ≤ challenge.length) (hmore : last = none ∨ offset < challenge.length) :
    (signFrom timing i path challenge offset last : EStateM (Stop Error) σ Bytes) = (do
      let command ← lift (Error.attempt .codec (Token.signCommand i
        (start ++ (challenge.drop offset).take (Command.maxPayload - start.length))))
      let response ← lift (Exchange.run timing command)
      if response.status.isSuccess then
        signFrom timing i path challenge
          (offset + min (challenge.length - offset) (Command.maxPayload - start.length))
          (some response.payload)
      else throw (.failed (.status response.status))) := by
  have hopen : ¬ (last.isSome ∧ challenge.length ≤ offset) := by
    rintro ⟨hlast, hend⟩
    rcases hmore with rfl | hmore
    · cases hlast
    · exact absurd hmore (Nat.not_lt.2 hend)
  have hblock : slice? challenge offset
      (offset + min (challenge.length - offset) (Command.maxPayload - start.length))
        = some ((challenge.drop offset).take (Command.maxPayload - start.length)) := by
    rw [slice?_block (by omega), ← List.length_drop, Nat.min_comm, ← List.take_eq_take_min]
  have hnearer : ∀ payload : Bytes, toSend challenge
      (offset + min (challenge.length - offset) (Command.maxPayload - start.length))
      (some payload) < toSend challenge offset last := by
    intro payload
    rw [toSend, toSend, Option.isNone_some]
    rcases hmore with rfl | hmore
    · rw [Option.isNone_none, if_neg Bool.false_ne_true, if_pos rfl]
      omega
    · rw [if_neg Bool.false_ne_true]
      omega
  rw [signFrom, if_neg hopen, ← hstart]
  simp only [sub?_of_le hle, sub?_of_le (Nat.le_of_lt hroom), access_some, pure_bind, hblock,
    run_eq, hnearer, dite_true]

/-- Behind the first command every other one carries a block of the challenge and nothing else. -/
theorem signFrom_later {offset : Nat} (hle : offset ≤ challenge.length)
    (hstarted : offset = 0 → challenge = []) (last : Bytes) :
    (signFrom timing i path challenge offset (some last) : EStateM (Stop Error) σ Bytes)
      = lift (Token.signChunks timing i last
          (Bytes.chunks Command.maxPayload (challenge.drop offset))) := by
  induction hleft : challenge.length - offset using Nat.strongRecOn generalizing offset last with
  | ind left ih =>
      by_cases hmore : offset < challenge.length
      · have hstart : ([] : Bytes) = if offset = 0 then path else [] := by
          by_cases hzero : offset = 0
          · rw [hstarted hzero] at hmore
            exact absurd hmore (Nat.not_lt_zero offset)
          · rw [if_neg hzero]
        have hne : challenge.drop offset ≠ [] := by
          rw [ne_eq, List.drop_eq_nil_iff]
          exact Nat.not_le.2 hmore
        rw [signFrom_step hstart (by decide) hle (Or.inr hmore),
          Bytes.chunks_of_ne_nil (by decide) hne, Token.signChunks, lift_bind]
        refine bind_congr fun command => ?_
        rw [lift_bind]
        refine bind_congr fun response => ?_
        rw [lift_ite, List.length_nil, Nat.sub_zero]
        -- The next offset is where the blocks that are left begin.
        have hmax : 0 < Command.maxPayload := by decide
        have hdrop : (challenge.drop offset).drop Command.maxPayload
            = challenge.drop (offset + min (challenge.length - offset) Command.maxPayload) := by
          rw [← List.drop_drop, ← List.length_drop, Nat.min_comm, ← List.drop_eq_drop_min]
        rw [hdrop, ih _ (by omega) (by omega) (fun hzero => by omega) response.payload rfl]
        rfl
      · have hend : challenge.length ≤ offset := Nat.le_of_not_lt hmore
        rw [signFrom, if_pos ⟨rfl, hend⟩, List.drop_eq_nil_of_le hend, Bytes.chunks_nil]
        rfl

/-- The first command carries the path, and what fits behind it. -/
theorem signFrom_first (timing : Timing) (i : Identity) (challenge : Bytes) :
    (signFrom timing i (DerivationPath.ofIdentity i .signing).toBytes challenge 0 none
        : EStateM (Stop Error) σ Bytes)
      = lift (Token.signChunks timing i [] (Token.signPayloads i challenge)) := by
  have hpath := Token.length_signPath i
  have hroom : (DerivationPath.ofIdentity i .signing).toBytes.length < Command.maxPayload := by
    rw [hpath]
    decide
  have hfirst : (signFrom timing i (DerivationPath.ofIdentity i .signing).toBytes challenge 0 none
      : EStateM (Stop Error) σ Bytes) = _ :=
    signFrom_step (if_pos rfl).symm hroom (Nat.zero_le challenge.length) (Or.inl rfl)
  have hblock : Command.maxPayload - (DerivationPath.ofIdentity i .signing).toBytes.length
      = 234 := by
    rw [hpath]
    rfl
  rw [hfirst, hblock, Token.signPayloads_eq, Token.signChunks, lift_bind, List.drop_zero]
  refine bind_congr fun command => ?_
  rw [lift_bind]
  refine bind_congr fun response => ?_
  rw [lift_ite, Nat.zero_add, Nat.sub_zero]
  have hdrop : challenge.drop 234 = challenge.drop (min challenge.length 234) := by
    rw [Nat.min_comm, ← List.drop_eq_drop_min]
  -- Nothing but an empty challenge leaves the offset where it is.
  have hempty : min challenge.length 234 = 0 → challenge = [] := by
    intro hzero
    exact List.eq_nil_of_length_eq_zero (by omega)
  rw [hdrop, signFrom_later (Nat.min_le_left _ _) hempty]
  rfl

theorem sign_eq (timing : Timing) (i : Identity) (challenge : Bytes) :
    (sign timing i challenge : EStateM (Stop Error) σ Signature)
      = lift (Token.sign timing i challenge) := by
  have hpath : path? i.canonical .signing = some (DerivationPath.ofIdentity i .signing) :=
    path?_eq i.canonical .signing
  rw [sign, Token.sign, hpath, access_some, pure_bind, signFrom_first, lift_bind]
  simp only [signature?_eq, attempt_some]

end Checked

/-- Over any transport, signing, asking for a key and answering a message fail in the ways that
are told for them and in no other.  Nothing that the agent makes of its own is too long, and
nothing that it reads is cut once it is known to be there: with every slice, index and
difference checked, signing and asking for a key are what they are without the checks. -/
theorem Token.operations_fail_in_range {σ : Type} [Transport σ] (timing : Timing) (i : Identity)
    (challenge message : Bytes) :
    (∀ (s : σ) (e : Error) (s' : σ),
      Token.sign timing i challenge s = .error e s' → Token.SignFailure e) ∧
    (∀ (s : σ) (e : Error) (s' : σ),
      Token.publicKey timing i s = .error e s' → Token.KeyFailure e) ∧
    (∀ (a : Agent σ) (e : Error) (a' : Agent σ),
      Agent.handle message a = .error e a' → Agent.HandleFailure e) ∧
    (∀ s s' : σ, Checked.sign timing i challenge s ≠ .error .outOfRange s' ∧
      Checked.publicKey timing i s ≠ .error .outOfRange s') ∧
    Checked.sign (σ := σ) timing i challenge = Checked.lift (Token.sign timing i challenge) ∧
    Checked.publicKey (σ := σ) timing i = Checked.lift (Token.publicKey timing i) := by
  have hsign := Checked.sign_eq (σ := σ) timing i challenge
  have hkey := Checked.publicKey_eq (σ := σ) timing i
  refine ⟨Token.sign_fails timing i challenge, Token.publicKey_fails timing i,
    Agent.handle_fails message, ?_, hsign, hkey⟩
  intro s s'
  rw [hsign, hkey]
  exact ⟨Checked.lift_ne_outOfRange _ s s', Checked.lift_ne_outOfRange _ s s'⟩

end TokenAgent
