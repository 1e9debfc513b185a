import TokenAgent.Agent.Error
import TokenAgent.Frame.Error
import TokenAgent.Identity.Basic
import TokenAgent.Json.Error
import TokenAgent.Key.Error
import TokenAgent.Status
import TokenAgent.Transport.Basic

/-!
# Errors of the agent

One type for everything that an operation of the agent can fail with, and its text.
-/

namespace TokenAgent

/-- Failures of files and sockets. -/
inductive StreamError where
  | notFound
  | notUtf8
  /-- The stream ended inside a message. -/
  | earlyEnd
  deriving DecidableEq, Repr

def StreamError.message : StreamError → String
  | notFound => "No such file or directory (os error 2)"
  | notUtf8 => "stream did not contain valid UTF-8"
  | earlyEnd => "early eof"

inductive Error where
  | framing (e : FramingError)
  | transport (e : TransportError)
  /-- The token refused a command. -/
  | status (s : Status)
  | decode (e : DecodeError)
  | codec (e : CodecError)
  | identity (e : IdentityError)
  | stream (e : StreamError)
  | json (e : Json.Error)
  deriving DecidableEq, Repr

namespace Error

def message : Error → String
  | framing e => e.message
  | transport e => e.message
  | status s => s.refusal
  | decode e => e.message
  | codec e => e.message
  | identity e => e.message
  | stream e => "I/O error: " ++ e.message
  | json e => e.message

/-- The result of a pure step, inside an operation on some state. -/
def attempt {ε σ α : Type} (wrap : ε → Error) : Except ε α → EStateM Error σ α
  | .ok a => pure a
  | .error e => throw (wrap e)

end Error

end TokenAgent
