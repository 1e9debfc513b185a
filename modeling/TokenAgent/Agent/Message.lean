import TokenAgent.Agent.Error
import TokenAgent.Key.Blob
import TokenAgent.Signature

/-!
# Agent messages

A message is a length of four bytes, an opcode, and the fields of the opcode.  Of the declared
length only zero matters: the byte behind it is the opcode, and what follows the fields of a
request is not looked at.

* `Request.decode` — the request of a client;
* `SignRequest.challenge` — the second field of a sign request, read when the key is known;
* `Answer` — the messages that go back.
-/

namespace TokenAgent

/-! ## Opcodes and limits -/

namespace Opcode

def failure : UInt8 := 5

def requestIdentities : UInt8 := 11

def identitiesAnswer : UInt8 := 12

def signRequest : UInt8 := 13

def signResponse : UInt8 := 14

end Opcode

/-- The longest message that a client may send, its length included. -/
def maxMessageSize : Nat := 8192

/-! ## Requests -/

/-- A request for a signature: the key, and what follows it unread. -/
structure SignRequest where
  key : Bytes
  body : Bytes
  deriving DecidableEq, Repr

/-- Read the challenge.  A second reading goes on where the first one stopped. -/
def SignRequest.challenge : EStateM DecodeError SignRequest Bytes := fun r =>
  match Reader.field r.body with
  | .ok challenge rest => .ok challenge { r with body := rest }
  | .error missing rest => .error (.unexpectedEnd missing) { r with body := rest }

inductive Request where
  | identities
  | sign (request : SignRequest)
  deriving DecidableEq, Repr

namespace Request

/-- Read a request. -/
def read : EStateM DecodeError Bytes Request := do
  let declared ← Reader.uint32.orElseFail .unexpectedEnd
  if declared = 0 then throw .emptyMessage
  let opcode ← Reader.byte.orElseFail .unexpectedEnd
  if opcode = Opcode.requestIdentities then return .identities
  else if opcode = Opcode.signRequest then
    let key ← Reader.field.orElseFail .unexpectedEnd
    return .sign ⟨key, ← get⟩
  else throw (.unknownOpcode opcode)

/-- The request that a message makes. -/
def decode (message : Bytes) : Except DecodeError Request :=
  match read message with
  | .ok request _ => .ok request
  | .error e _ => .error e

end Request

/-! ## Answers -/

namespace Answer

/-- The keys on offer, each with its comment. -/
def identities (keys : List (KeyBlob × String)) : Bytes :=
  Wire.envelope
    (Opcode.identitiesAnswer :: (Bytes.bigEndian 4 keys.length
      ++ keys.flatMap fun k => Wire.fields [k.1.bytes, Utf8.encode k.2]))

/-- A signature. -/
def signature (s : Signature) : Bytes :=
  Wire.envelope (Opcode.signResponse :: Wire.field s.bytes)

/-- A request that was not carried out. -/
def failure : Bytes :=
  Wire.envelope [Opcode.failure]

end Answer

end TokenAgent
