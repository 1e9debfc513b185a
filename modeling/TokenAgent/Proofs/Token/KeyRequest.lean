import TokenAgent.Proofs.Exchange.Sequence
import TokenAgent.Proofs.Token.Payloads

/-!
# Asking for a key

A request for a public key is one command, the same for every transport: five bytes and the path
of the key.  What asking comes to is what the exchange of this command comes to, and what the
agent makes of the response (`Token.publicKey_eq`).  With a simulated token it is told by the
entry of the script that the request took (`Token.publicKey_simulated`).
-/

namespace TokenAgent

namespace Token

open Exchange Running

/-- The command that asks for the key of an identity. -/
def keyRequest (i : Identity) : Command where
  cla := Command.agentClass
  ins := Command.getPublicKey
  p1 := 0
  p2 := i.keyType.keyParameter
  payload := (DerivationPath.ofIdentity i .signing).toBytes
  payload_le := by
    rw [length_signPath]
    decide

theorem keyCommand_eq (i : Identity) : keyCommand i = .ok (keyRequest i) :=
  dif_pos (keyRequest i).payload_le

theorem toBytes_keyRequest (i : Identity) :
    (keyRequest i).toBytes
      = [0x80, 0x02, 0x00, 0x01, 0x15] ++ (DerivationPath.ofIdentity i .signing).toBytes := by
  -- There is one type of key, and with it one parameter.
  have hparameter : i.keyType.keyParameter = 0x01 := by
    cases i.keyType with
    | nistp256 => rfl
  rw [Command.toBytes, keyRequest, length_signPath, hparameter]
  rfl

/-- What the agent makes of the response to a request for a key. -/
def keyOf (i : Identity) (response : Response) : Except Error KeyBlob :=
  if response.status.isSuccess || response.status.isMoreData then
    (keyOfResponse i.keyType response.payload).mapError .codec
  else .error (.status response.status)

variable {σ : Type} [Transport σ]

theorem publicKey_eq (timing : Timing) (i : Identity) (s : σ) :
    publicKey timing i s
      = settled ((perform timing (keyRequest i) s).1 >>= keyOf i)
          (perform timing (keyRequest i) s).2 := by
  have hcommand : (Error.attempt Error.codec (keyCommand i) : EStateM Error σ Command) s
      = .ok (keyRequest i) s := by
    rw [keyCommand_eq]
    rfl
  rw [publicKey, bind_ok hcommand]
  refine bind_settled (run_eq_perform timing (keyRequest i) s) ?_
  intro response
  rw [keyOf]
  by_cases haccepted : (response.status.isSuccess || response.status.isMoreData) = true
  · rw [if_pos haccepted, if_pos haccepted]
    exact attempt_eq Error.codec _ _
  · rw [if_neg haccepted, if_neg haccepted]
    rfl

/-! ## Simulated tokens -/

/-- The key that a reply holds for an identity, or why it holds none: the token has a chunk size,
and there is a time to wait. -/
def fetched (deadline : Duration) (chunkSize : Nat) (reply : Option Simulator.Reply)
    (i : Identity) : Except Error KeyBlob :=
  answered deadline (reply.map (inTime deadline chunkSize)) >>= keyOf i

theorem publicKey_simulated {s : Simulator} (h : Ready s) (timing : Timing) (i : Identity) :
    ∃ left, publicKey timing i s
      = settled (fetched timing.readTimeout s.chunkSize s.script.head? i) { s with
          script := s.script.tail
          pending := left
          commands := s.commands ++ [(keyRequest i).toBytes] } := by
  rcases run_in_time h.1 h.2 timing (keyRequest i) with ⟨left, hrun⟩
  refine ⟨left, ?_⟩
  rw [publicKey_eq, perform_of_run hrun, fetched]

end Token

end TokenAgent
