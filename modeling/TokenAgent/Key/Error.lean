import TokenAgent.Wire.Reader

/-!
# Faults in what a token sends

Public keys and signatures that a token reports, and commands that cannot be written.
-/

namespace TokenAgent

/-- Malformed keys, signatures and commands. -/
inductive CodecError where
  /-- No point of the curve has this compressed form. -/
  | invalidPoint
  /-- A public key response of `length` bytes, too short to hold a point. -/
  | malformedPublicKey (length : Nat)
  /-- A signature that ends before a part it declares. -/
  | malformedSignature (missing : Shortfall)
  /-- A command payload of `length` bytes, too long for one command. -/
  | payloadTooLarge (length : Nat)
  deriving DecidableEq, Repr

namespace CodecError

def message : CodecError → String
  | invalidPoint => "invalid compressed curve point"
  | malformedPublicKey length => s!"public key response of {length} bytes is malformed"
  | malformedSignature missing =>
      s!"signature response is malformed: needed {missing.needed} bytes, {missing.remaining} available"
  | payloadTooLarge length => s!"command payload of {length} bytes exceeds 255"

end CodecError

end TokenAgent
