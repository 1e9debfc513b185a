import TokenAgent.Frame.Error
import TokenAgent.Text.Duration

/-!
# Transports

A transport carries reports to a token and brings back what the token sends.  Both directions
can fail.  Time appears only as the wait that a read allows, and as the backlog: the number of
reads after which nothing more will come, so that waiting on is pointless.
-/

namespace TokenAgent

/-- Why a transport refused a read or a write. -/
inductive TransportFault where
  | unplugged
  /-- A report of the wrong size or with the wrong report id. -/
  | malformedReport (size : Nat)
  /-- A report whose packet violates the framing. -/
  | corrupt (what : FramingError)
  /-- A report that was taken in part only. -/
  | shortWrite (accepted offered : Nat)
  /-- Any other reason, in words. -/
  | other (text : String)
  deriving DecidableEq, Repr

def TransportFault.message : TransportFault → String
  | unplugged => "device unplugged"
  | malformedReport size => s!"malformed report of {size} bytes"
  | corrupt what => what.message
  | shortWrite accepted offered => s!"short write: {accepted} of {offered} bytes"
  | other text => text

/-- Failures of an exchange below the framing. -/
inductive TransportError where
  | writeFailed (fault : TransportFault)
  | readFailed (fault : TransportFault)
  /-- No complete response within the deadline. -/
  | timeout (deadline : Duration)
  deriving DecidableEq, Repr

def TransportError.message : TransportError → String
  | writeFailed fault => "write to device failed: " ++ fault.message
  | readFailed fault => "read from device failed: " ++ fault.message
  | timeout deadline => "no response from device within " ++ deadline.text

/-- A transport with states `σ`. -/
class Transport (σ : Type) where
  /-- Write one report; the result is the number of bytes taken. -/
  write (report : Bytes) : EStateM TransportFault σ Nat
  /-- Read what has arrived, waiting at most `wait`; `none` if nothing has. -/
  read (wait : Duration) : EStateM TransportFault σ (Option Bytes)
  /-- The number of reads after which nothing more will come. -/
  backlog (state : σ) : Nat

end TokenAgent
