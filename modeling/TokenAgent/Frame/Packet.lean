import TokenAgent.Frame.Header

/-!
# Messages as packets

* `Frame.packets m` — the packets of a message;
* `Frame.pack` — the same, for messages whose length can be declared;
* `Packet.toBytes`, `Packet.toReport` — 64 bytes, padded with zeros, and the report of 65 bytes
  that is written to the token.
-/

namespace TokenAgent

namespace Frame

/-- One packet: its place in the message and what follows its header, padding apart. -/
structure Packet where
  sequence : UInt16
  body : Bytes
  deriving DecidableEq, Repr

namespace Packet

/-- The packet as it travels, padded with zeros. -/
def toBytes (p : Packet) : Bytes :=
  (Header.ofSequence p.sequence).toBytes ++ p.body
    ++ List.replicate (laterRoom - p.body.length) 0

/-- The report that carries the packet to the token. -/
def toReport (p : Packet) : Bytes :=
  reportId :: p.toBytes

/-- A one-line description for diagnostics. -/
def describe (p : Packet) : String :=
  "Frame \x7b sequence: " ++ toString p.sequence.toNat ++ ", .. \x7d"

end Packet

/-- Packets number `k`, `k + 1`, … with one block of data each. -/
def laterPackets (k : Nat) : List Bytes → List Packet
  | [] => []
  | block :: rest => ⟨UInt16.ofNat k, block⟩ :: laterPackets (k + 1) rest

/-- The packets of a message.  The first declares the length of the message. -/
def packets (message : Bytes) : List Packet :=
  ⟨0, Bytes.bigEndian 2 message.length ++ message.take firstRoom⟩
    :: laterPackets 1 (Bytes.chunks laterRoom (message.drop firstRoom))

/-- The packets of a message whose length can be declared. -/
def pack (message : Bytes) : Except FramingError (List Packet) :=
  if message.length ≤ maxMessage then .ok (packets message)
  else .error (.tooLarge message.length)

/-- The packets of a message, one after the other. -/
def packBytes (message : Bytes) : Except FramingError Bytes := do
  return (← pack message).flatMap Packet.toBytes

end Frame

end TokenAgent
