import TokenAgent.Key.Error

/-!
# Commands

A command of the token: class, instruction, two parameters, and at most 255 bytes of payload
behind their length.

```text
class  instruction  p1  p2  length  payload
```
-/

namespace TokenAgent

namespace Command

/-- The largest payload of one command. -/
def maxPayload : Nat := 255

/-- The instruction class of the agent application. -/
def agentClass : UInt8 := 0x80

/-- Ask for the public key of a derivation path. -/
def getPublicKey : UInt8 := 0x02

/-- Sign a challenge, or one more chunk of it. -/
def sign : UInt8 := 0x04

/-- The flag of `p2` that marks a challenge of an SSH login. -/
def sshFlag : UInt8 := 0x80

end Command

/-- A command whose payload fits its length byte. -/
structure Command where
  cla : UInt8
  ins : UInt8
  p1 : UInt8
  p2 : UInt8
  payload : Bytes
  payload_le : payload.length ≤ Command.maxPayload
  deriving DecidableEq, Repr

namespace Command

/-- A command, if its payload fits. -/
def ofPayload (cla ins p1 p2 : UInt8) (payload : Bytes) : Except CodecError Command :=
  if h : payload.length ≤ maxPayload then .ok ⟨cla, ins, p1, p2, payload, h⟩
  else .error (.payloadTooLarge payload.length)

/-- The wire form of a command. -/
def toBytes (c : Command) : Bytes :=
  [c.cla, c.ins, c.p1, c.p2, UInt8.ofNat c.payload.length] ++ c.payload

end Command

end TokenAgent
