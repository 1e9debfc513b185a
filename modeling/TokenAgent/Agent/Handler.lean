import TokenAgent.Agent.Basic
import TokenAgent.Agent.Message

/-!
# Answering requests

`Agent.handle` answers one message of a client.  A request to sign with a key that is not on
offer is answered with a failure, before the challenge is even read.  Errors are for the caller:
the message is malformed, or the token failed.
-/

namespace TokenAgent

namespace Agent

variable {σ : Type}

/-- The answer that lists the keys on offer. -/
def identitiesAnswer (a : Agent σ) : Bytes :=
  Answer.identities (a.keyed.map fun entry => (entry.2, entry.1.canonical))

variable [Transport σ]

/-- Answer a request to sign. -/
def answerSign (request : SignRequest) : EStateM Error (Agent σ) Bytes := do
  match (← get).find? request.key with
  | none => return Answer.failure
  | some i =>
      match SignRequest.challenge request with
      | .error e _ => throw (.decode e)
      | .ok challenge _ => return Answer.signature (← sign i challenge)

/-- Answer a message. -/
def handle (message : Bytes) : EStateM Error (Agent σ) Bytes := do
  match ← Error.attempt .decode (Request.decode message) with
  | .identities => return (← get).identitiesAnswer
  | .sign request => answerSign request

end Agent

end TokenAgent
