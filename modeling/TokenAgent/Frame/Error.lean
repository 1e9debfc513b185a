import TokenAgent.Text.Hex
import TokenAgent.Wire.Reader

/-!
# Framing faults

What can be wrong with the packets of a message, and the text that says so.
-/

namespace TokenAgent

namespace Frame

/-- The channel that every packet carries. -/
def channel : UInt16 := 0x0101

/-- The tag that every packet carries. -/
def tag : UInt8 := 0x05

end Frame

/-- A violation of the packet format. -/
inductive FramingError where
  /-- A packet of another channel. -/
  | channelMismatch (found : UInt16)
  /-- A packet with another tag. -/
  | tagMismatch (found : UInt8)
  /-- A packet out of order. -/
  | sequenceMismatch (expected found : UInt16)
  /-- The bytes ended inside a packet. -/
  | truncated (missing : Shortfall)
  /-- A message whose length does not fit the length word of its first packet. -/
  | tooLarge (length : Nat)
  /-- A response too short to end in a status word. -/
  | missingStatus (length : Nat)
  deriving DecidableEq, Repr

namespace FramingError

def message : FramingError → String
  | channelMismatch found =>
      s!"invalid channel 0x{Hex.lower 4 found.toNat} (expected 0x{Hex.lower 4 Frame.channel.toNat})"
  | tagMismatch found =>
      s!"invalid tag 0x{Hex.lower 2 found.toNat} (expected 0x{Hex.lower 2 Frame.tag.toNat})"
  | sequenceMismatch expected found =>
      s!"invalid sequence {found.toNat} (expected {expected.toNat})"
  | truncated missing =>
      s!"frame truncated: needed {missing.needed} more bytes, {missing.remaining} available"
  | tooLarge length =>
      s!"message of {length} bytes exceeds the 16-bit frame length field"
  | missingStatus length =>
      s!"response of {length} bytes has no status word"

end FramingError

end TokenAgent
