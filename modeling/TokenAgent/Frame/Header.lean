import TokenAgent.Frame.Error

/-!
# Packet headers

A message travels in packets of 64 bytes.  Every packet opens with a header of five bytes:
channel, tag and the packet's place in the message.  The first packet adds the length of the
whole message.

```text
first:  channel (2)  tag (1)  sequence (2)  length (2)  data (57)
next:   channel (2)  tag (1)  sequence (2)  data (59)
```

* `Frame.Header` with its wire form, `Header.read` and `Header.check`;
* `Frame.framedLength` — bytes needed to carry a message, the last packet unpadded.
-/

namespace TokenAgent

namespace Frame

/-- Bytes in a packet. -/
def packetSize : Nat := 64

/-- Bytes in the header of every packet. -/
def headerSize : Nat := 5

/-- Bytes before the data of the first packet: header and message length. -/
def firstHeaderSize : Nat := headerSize + 2

/-- Room for data in the first packet. -/
def firstRoom : Nat := packetSize - firstHeaderSize

/-- Room for data in every later packet. -/
def laterRoom : Nat := packetSize - headerSize

/-- The byte in front of a packet on its way to the token. -/
def reportId : UInt8 := 0x00

/-- Bytes in a report: the report id and a packet. -/
def reportSize : Nat := packetSize + 1

/-- The longest message that the length word of the first packet can declare. -/
def maxMessage : Nat := 65535

structure Header where
  channel : UInt16
  tag : UInt8
  sequence : UInt16
  deriving DecidableEq, Repr

namespace Header

/-- The header of packet number `sequence` of a message. -/
def ofSequence (sequence : UInt16) : Header :=
  ⟨Frame.channel, Frame.tag, sequence⟩

/-- The five bytes of a header. -/
def toBytes (h : Header) : Bytes :=
  Bytes.bigEndian 2 h.channel.toNat ++ [h.tag] ++ Bytes.bigEndian 2 h.sequence.toNat

@[simp] theorem length_toBytes (h : Header) : h.toBytes.length = headerSize := by
  simp [toBytes, headerSize]

/-- Write a header over the start of a buffer, which has to have room for it. -/
def overwrite? (h : Header) (buffer : Bytes) : Option Bytes :=
  if headerSize ≤ buffer.length then some (h.toBytes ++ buffer.drop headerSize) else none

/-- Read a header, whatever it says. -/
def read : Reader Header := do
  let channel ← Reader.uint16
  let tag ← Reader.byte
  let sequence ← Reader.uint16
  return ⟨channel, tag, sequence⟩

/-- A header is good if it is the one of packet `expected`; of several faults the leftmost
field's is reported. -/
def check (h : Header) (expected : UInt16) : Except FramingError Unit :=
  if h.channel ≠ Frame.channel then .error (.channelMismatch h.channel)
  else if h.tag ≠ Frame.tag then .error (.tagMismatch h.tag)
  else if h.sequence ≠ expected then .error (.sequenceMismatch expected h.sequence)
  else .ok ()

theorem check_eq_ok_iff {h : Header} {expected : UInt16} :
    h.check expected = .ok () ↔ h = ofSequence expected := by
  rcases h with ⟨channel, tag, sequence⟩
  simp only [check, ofSequence, mk.injEq]
  split
  · simp_all
  · split
    · simp_all
    · split <;> simp_all

end Header

/-- Bytes needed to carry a message of `length` bytes, the last packet unpadded. -/
def framedLength (length : Nat) : Nat :=
  if length ≤ firstRoom then firstHeaderSize + length
  else
    let later := (length - firstRoom + laterRoom - 1) / laterRoom
    firstHeaderSize + length + later * headerSize

end Frame

end TokenAgent
