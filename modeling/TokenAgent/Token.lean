import TokenAgent.Exchange
import TokenAgent.Identity.DerivationPath
import TokenAgent.Key.Blob
import TokenAgent.Signature

/-!
# Operations of the token

* `Token.publicKey` — the public key of an identity;
* `Token.sign` — a signature of a challenge with the key of an identity.

A challenge travels behind the derivation path of its key, cut into as many commands as it
takes.  The token answers the last one with the signature.
-/

namespace TokenAgent

namespace Token

variable {σ : Type} [Transport σ]

/-- The key that a public key response reports, under the names of its type. -/
def keyOfResponse (keyType : KeyType) (payload : Bytes) : Except CodecError KeyBlob := do
  let compressed ← Point.compressedOfResponse payload
  let point ← Point.decompress compressed
  return KeyBlob.ofCoordinates keyType.sshName keyType.curveName point

/-- The request for the public key of an identity. -/
def keyCommand (i : Identity) : Except CodecError Command :=
  Command.ofPayload Command.agentClass Command.getPublicKey 0 i.keyType.keyParameter
    (DerivationPath.ofIdentity i .signing).toBytes

/-- Ask for the public key of an identity.  More data being available is no failure. -/
def publicKey (timing : Timing) (i : Identity) : EStateM Error σ KeyBlob := do
  let response ← Exchange.run timing (← Error.attempt .codec (keyCommand i))
  if response.status.isSuccess || response.status.isMoreData then
    Error.attempt .codec (keyOfResponse i.keyType response.payload)
  else throw (.status response.status)

/-- The payloads that carry a challenge: the path of the key, then the challenge. -/
def signPayloads (i : Identity) (challenge : Bytes) : List Bytes :=
  Bytes.chunks Command.maxPayload ((DerivationPath.ofIdentity i .signing).toBytes ++ challenge)

/-- One command of a challenge. -/
def signCommand (i : Identity) (payload : Bytes) : Except CodecError Command :=
  Command.ofPayload Command.agentClass Command.sign 0 i.keyType.signParameter payload

/-- Send the payloads one by one, each of which has to succeed; the result is what the last one
is answered with, or `last` if there is none. -/
def signChunks (timing : Timing) (i : Identity) :
    (last : Bytes) → List Bytes → EStateM Error σ Bytes
  | last, [] => return last
  | _, payload :: rest => do
      let response ← Exchange.run timing (← Error.attempt .codec (signCommand i payload))
      if response.status.isSuccess then signChunks timing i response.payload rest
      else throw (.status response.status)

/-- Sign a challenge with the key of an identity. -/
def sign (timing : Timing) (i : Identity) (challenge : Bytes) : EStateM Error σ Signature := do
  let signature ← signChunks timing i [] (signPayloads i challenge)
  Error.attempt .codec (Signature.ofResponse i.keyType.sshName signature)

end Token

end TokenAgent
