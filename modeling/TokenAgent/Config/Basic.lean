import TokenAgent.Identity.Basic
import TokenAgent.Text.Duration
import TokenAgent.Text.Utf8

/-!
# Configuration

Timing of the exchange with the token, the place of the agent's socket, and the identities.
-/

namespace TokenAgent

/-! ## Timing -/

/-- How long an exchange waits. -/
structure Timing where
  /-- The deadline for a whole response. -/
  readTimeout : Duration
  /-- The pause between reads that bring nothing. -/
  pollInterval : Duration
  deriving DecidableEq, Repr

namespace Timing

/-- Seconds that a person has to confirm on the token. -/
def defaultTimeoutSeconds : Nat := 15

def defaultPollMillis : Nat := 10

def default : Timing :=
  ⟨Duration.ofSeconds defaultTimeoutSeconds, Duration.ofMillis defaultPollMillis⟩

end Timing

/-! ## The place of the socket -/

/-- A path of the file system.  It may be any bytes; most of them, but not all, are texts. -/
structure SocketPath where
  bytes : Bytes
  deriving DecidableEq, Repr

namespace SocketPath

def ofText (text : String) : SocketPath :=
  ⟨Utf8.encode text⟩

/-- The text that a path is, if it is one. -/
def text? (path : SocketPath) : Option String :=
  Utf8.decode? path.bytes

end SocketPath

/-! ## The configuration -/

structure Config where
  readTimeoutSeconds : UInt64
  pollIntervalMillis : UInt64
  socketPath : Option SocketPath
  identities : List Identity
  deriving DecidableEq, Repr

namespace Config

def default : Config :=
  ⟨UInt64.ofNat Timing.defaultTimeoutSeconds, UInt64.ofNat Timing.defaultPollMillis, none, []⟩

/-- The timing of exchanges under this configuration. -/
def timing (c : Config) : Timing :=
  ⟨Duration.ofSeconds c.readTimeoutSeconds.toNat, Duration.ofMillis c.pollIntervalMillis.toNat⟩

/-- The configuration without the keys of its identities, which is all that lasts. -/
def withoutKeys (c : Config) : Config :=
  { c with identities := c.identities.map Identity.withoutKey }

end Config

end TokenAgent
