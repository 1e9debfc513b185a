import TokenAgent.Frame.Header

/-!
# Messages from packets

`Frame.assemble raw` puts together the message that starts at the front of `raw`.  On a growing
buffer it answers `incomplete` until every packet that the declared length calls for is there,
and then the message.  Padding and whatever follows the message are never read.

`Frame.Buffer` collects what a token sends and assembles anew after every arrival.
-/

namespace TokenAgent

namespace Frame

/-- How far a message has come. -/
inductive Assembly where
  /-- More bytes are needed. -/
  | incomplete
  /-- The whole message. -/
  | complete (message : Bytes)
  deriving DecidableEq, Repr

/-- Read the header of packet `k` and check it. -/
def expectHeader (k : UInt16) : EStateM FramingError Bytes Unit := do
  let header ← Header.read.orElseFail .truncated
  match header.check k with
  | .ok () => return ()
  | .error e => throw e

/-- The last `left` bytes of a message, from packet `k` on. -/
def readLater (k : UInt16) (left : Nat) : EStateM FramingError Bytes Bytes :=
  if _h : left = 0 then pure []
  else do
    expectHeader k
    let block ← (Reader.take (min left laterRoom)).orElseFail .truncated
    return block ++ (← readLater (k + 1) (left - laterRoom))
termination_by left
decreasing_by simp [laterRoom, packetSize, headerSize]; omega

/-- The message at the front of a buffer of `size` bytes. -/
def readMessage (size : Nat) : EStateM FramingError Bytes Assembly := do
  if size < firstHeaderSize then return .incomplete
  expectHeader 0
  let length := (← Reader.uint16.orElseFail .truncated).toNat
  if size < framedLength length then return .incomplete
  -- A message that goes on fills its first packet, so there is no padding to pass over.
  let block ← (Reader.take (min length firstRoom)).orElseFail .truncated
  return .complete (block ++ (← readLater 1 (length - firstRoom)))

/-- The message that starts at the front of `raw`, as far as it is there. -/
def assemble (raw : Bytes) : Except FramingError Assembly :=
  match readMessage raw.length raw with
  | .ok outcome _ => .ok outcome
  | .error e _ => .error e

/-! ## Collecting arrivals -/

/-- What has arrived and not been dropped. -/
structure Buffer where
  bytes : Bytes
  deriving DecidableEq, Repr

namespace Buffer

def empty : Buffer := ⟨[]⟩

/-- Add an arrival and assemble the whole buffer; the bytes stay, also when they are at fault. -/
def push (b : Buffer) (arrival : Bytes) : Except FramingError Assembly × Buffer :=
  let bytes := b.bytes ++ arrival
  (assemble bytes, ⟨bytes⟩)

def clear (_ : Buffer) : Buffer := empty

def size (b : Buffer) : Nat := b.bytes.length

def isEmpty (b : Buffer) : Bool := b.bytes.isEmpty

end Buffer

end Frame

end TokenAgent
