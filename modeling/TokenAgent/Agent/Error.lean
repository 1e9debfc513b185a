import TokenAgent.Wire.Reader

/-!
# Faults of agent messages
-/

namespace TokenAgent

/-- What can be wrong with a message of a client. -/
inductive DecodeError where
  /-- The message ended before a part of it. -/
  | unexpectedEnd (missing : Shortfall)
  /-- The declared length is zero. -/
  | emptyMessage
  | unknownOpcode (opcode : UInt8)
  /-- A declared length of `length` bytes, more than the agent accepts. -/
  | tooLarge (length : Nat)
  deriving DecidableEq, Repr

def DecodeError.message : DecodeError → String
  | unexpectedEnd missing =>
      s!"unexpected end of message: needed {missing.needed} bytes, {missing.remaining} available"
  | emptyMessage => "empty agent message"
  | unknownOpcode opcode => s!"unsupported agent opcode {opcode.toNat}"
  | tooLarge length => s!"agent message of {length} bytes exceeds limit"

end TokenAgent
