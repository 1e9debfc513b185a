import TokenAgent.Proofs.Checked.Access
import TokenAgent.Proofs.Frame.Reading

/-!
# Framing with checked accesses

Packets are made by writing over parts of 64 zeros, and messages are put together by reading
blocks of computed lengths.  Neither ever reaches out of range: a message of any length is packed,
or refused, as by `Frame.pack` (`Checked.pack?_eq`), and any bytes at all are read as by
`Frame.assemble` (`Checked.assemble?_eq`).
-/

namespace TokenAgent

namespace Checked

open TokenAgent.Frame Running

/-! ## Packets -/

/-- Write the header of packet `k`, field by field. -/
def header? (k : UInt16) (frame : Bytes) : Option Bytes := do
  let frame ← overwrite? frame 0 2 (Bytes.bigEndian 2 Frame.channel.toNat)
  let frame ← overwrite? frame 2 3 [Frame.tag]
  overwrite? frame 3 5 (Bytes.bigEndian 2 k.toNat)

/-- The first packet of a message: header, length of the message, and the front of it. -/
def firstFrame? (message : Bytes) : Option Bytes := do
  let frame ← header? 0 (List.replicate packetSize 0)
  let frame ← overwrite? frame headerSize firstHeaderSize (Bytes.bigEndian 2 message.length)
  let n := min message.length firstRoom
  overwrite? frame firstHeaderSize (firstHeaderSize + n) (← slice? message 0 n)

/-- A later packet: header and block. -/
def laterFrame? (k : UInt16) (block : Bytes) : Option Bytes := do
  let frame ← header? k (List.replicate packetSize 0)
  overwrite? frame headerSize (headerSize + block.length) block

/-- The packets of blocks, from number `k` on. -/
def laterFrames? (k : Nat) : List Bytes → Option (List Bytes)
  | [] => some []
  | block :: rest => do
      let frame ← laterFrame? (UInt16.ofNat k) block
      return frame :: (← laterFrames? (k + 1) rest)

/-- The packets of a message, if its length can be declared. -/
def pack? (message : Bytes) : Option (Except FramingError (List Bytes)) :=
  if maxMessage < message.length then some (.error (.tooLarge message.length))
  else do
    let first ← firstFrame? message
    let rest ← slice? message (min message.length firstRoom) message.length
    return .ok (first :: (← laterFrames? 1 (Bytes.chunks laterRoom rest)))

/-- A packet behind the report id. -/
def report? (frame : Bytes) : Option Bytes := do
  let report ← overwrite? (List.replicate reportSize 0) 0 1 [reportId]
  overwrite? report 1 reportSize frame

variable {k : UInt16} {block message : Bytes} {p : Packet}

/-- The zeros behind a header are still there. -/
theorem header?_zeros (k : UInt16) : header? k (List.replicate packetSize 0)
    = some ((Header.ofSequence k).toBytes ++ List.replicate laterRoom 0) := by
  simp [header?, overwrite?, Bytes.bigEndian, Header.toBytes, Header.ofSequence, packetSize,
    laterRoom, headerSize, List.replicate]

theorem laterFrame?_eq (h : block.length ≤ laterRoom) :
    laterFrame? k block = some (Packet.toBytes ⟨k, block⟩) := by
  have hfill := overwrite?_zeros (Header.ofSequence k).toBytes h
  rw [Header.length_toBytes] at hfill
  rw [laterFrame?, header?_zeros, Option.bind_eq_bind, Option.bind_some, hfill, Packet.toBytes,
    List.append_assoc]

theorem firstFrame?_eq (message : Bytes) : firstFrame? message
    = some (Packet.toBytes ⟨0, Bytes.bigEndian 2 message.length ++ message.take firstRoom⟩) := by
  have hword : (Bytes.bigEndian 2 message.length).length ≤ laterRoom := by
    rw [Bytes.length_bigEndian]
    decide
  have hdata : (message.take firstRoom).length ≤ laterRoom - 2 := by
    rw [List.length_take]
    exact Nat.min_le_left firstRoom message.length
  -- The length is written behind the header, and the data behind both of them.
  have hlength := overwrite?_zeros (Header.ofSequence 0).toBytes hword
  have hfill := overwrite?_zeros
    ((Header.ofSequence 0).toBytes ++ Bytes.bigEndian 2 message.length) hdata
  rw [List.length_append] at hfill
  rw [Header.length_toBytes, Bytes.length_bigEndian] at hlength hfill
  have hslice : slice? message 0 (min message.length firstRoom)
      = some (message.take firstRoom) := by
    rw [slice?_front (Nat.min_le_left _ _), Nat.min_comm, ← List.take_eq_take_min]
  have hsize : min message.length firstRoom = (message.take firstRoom).length := by
    rw [List.length_take, Nat.min_comm]
  simp only [firstFrame?, header?_zeros, Option.bind_eq_bind, Option.bind_some, hslice]
  rw [hsize, firstHeaderSize, hlength, Option.bind_some, ← List.append_assoc, hfill]
  simp only [Packet.toBytes, List.append_assoc, List.length_append, Bytes.length_bigEndian,
    Nat.sub_sub]

theorem laterFrames?_eq {blocks : List Bytes} (h : ∀ block ∈ blocks, block.length ≤ laterRoom)
    (k : Nat) : laterFrames? k blocks = some ((laterPackets k blocks).map Packet.toBytes) := by
  induction blocks generalizing k with
  | nil => rfl
  | cons block rest ih =>
      rw [laterFrames?, laterFrame?_eq (h block List.mem_cons_self),
        ih (fun b hmem => h b (List.mem_cons_of_mem block hmem))]
      rfl

theorem pack?_eq (message : Bytes) :
    pack? message = some ((pack message).map fun ps => ps.map Packet.toBytes) := by
  rw [pack?, pack]
  by_cases hfits : message.length ≤ maxMessage
  · rw [if_neg (Nat.not_lt.2 hfits), if_pos hfits, firstFrame?_eq,
      slice?_rest (Nat.min_le_left _ _)]
    have hdrop : message.drop (min message.length firstRoom) = message.drop firstRoom := by
      rw [Nat.min_comm, ← List.drop_eq_drop_min]
    have hlater := laterFrames?_eq
      (fun block (hmem : block ∈ Bytes.chunks laterRoom (message.drop firstRoom)) =>
        Bytes.length_le_of_mem_chunks (by decide) hmem) 1
    simp only [hdrop, Option.bind_eq_bind, Option.bind_some, hlater]
    rfl
  · rw [if_pos (Nat.lt_of_not_le hfits), if_neg hfits]
    rfl

theorem report?_eq (h : p.body.length ≤ laterRoom) : report? p.toBytes = some p.toReport := by
  have hone : [reportId].length ≤ reportSize := by decide
  have hid : overwrite? (List.replicate reportSize 0) 0 1 [reportId]
      = some ([reportId] ++ List.replicate packetSize 0) :=
    overwrite?_zeros [] hone
  rw [report?, hid]
  exact overwrite?_rest [reportId] (Packet.length_toBytes h)

/-! ## Messages -/

/-- The bytes that carry a message of a declared length. -/
def framedLength? (length : Nat) : Option Nat :=
  if length ≤ firstRoom then some (firstHeaderSize + length)
  else do
    let rest ← sub? length firstRoom
    let later := (rest + laterRoom - 1) / laterRoom
    return firstHeaderSize + length + later * headerSize

/-- Read a header and check it. -/
def expectHeader (k : UInt16) : EStateM (Stop FramingError) Bytes Unit := do
  let channel ← uint16.adaptExcept (Stop.map .truncated)
  let tag ← byte.adaptExcept (Stop.map .truncated)
  let sequence ← uint16.adaptExcept (Stop.map .truncated)
  match (Header.mk channel tag sequence).check k with
  | .ok () => return ()
  | .error e => throw (.failed e)

/-- Read packets behind packet `k` until the message is as long as it was declared.  A packet
that adds nothing to the message would be followed by others for ever; that is no way to stay in
range either. -/
def readLater (length : Nat) (k : UInt16) (message : Bytes) :
    EStateM (Stop FramingError) Bytes Bytes :=
  if _h : message.length < length then do
    expectHeader (k + 1)
    let left ← access (sub? length message.length)
    let block ← (take (min left laterRoom)).adaptExcept (Stop.map .truncated)
    if _h : 0 < block.length then readLater length (k + 1) (message ++ block)
    else throw .outOfRange
  else return message
termination_by length - message.length
decreasing_by
  rw [List.length_append]
  omega

/-- The message at the front of some bytes. -/
def readMessage (raw : Bytes) : EStateM (Stop FramingError) Bytes Assembly := do
  if raw.length < firstHeaderSize then return .incomplete
  expectHeader 0
  let length := (← uint16.adaptExcept (Stop.map .truncated)).toNat
  if raw.length < (← access (framedLength? length)) then return .incomplete
  let block ← (take (min length firstRoom)).adaptExcept (Stop.map .truncated)
  return .complete (← readLater length 0 block)

/-- The message that starts at the front of some bytes, as far as it is there. -/
def assemble? (raw : Bytes) : Option (Except FramingError Assembly) :=
  outcome? (readMessage raw raw)

theorem framedLength?_eq (length : Nat) : framedLength? length = some (framedLength length) := by
  rw [framedLength?, framedLength]
  by_cases hone : length ≤ firstRoom
  · rw [if_pos hone, if_pos hone]
  · rw [if_neg hone, if_neg hone, sub?_of_le (Nat.le_of_not_le hone)]
    rfl

theorem expectHeader_eq (k : UInt16) : expectHeader k = lift (Frame.expectHeader k) := by
  simp only [expectHeader, Frame.expectHeader, Header.read, adaptExcept_bind, uint16_eq, byte_eq,
    lift_adaptExcept, lift_bind, bind_assoc]
  refine bind_congr fun channel => bind_congr fun tag => bind_congr fun sequence => ?_
  change _ = lift (match (Header.mk channel tag sequence).check k with
    | .ok () => pure ()
    | .error e => throw e)
  cases (Header.mk channel tag sequence).check k with
  | ok => rfl
  | error e => rfl

/-- As many packets are read as it takes to bring all that is missing. -/
theorem readLater_eq {length : Nat} {message : Bytes} (h : message.length ≤ length) (k : UInt16) :
    readLater length k message
      = lift (do return message ++ (← Frame.readLater (k + 1) (length - message.length))) := by
  induction hleft : length - message.length using Nat.strongRecOn generalizing k message with
  | ind left ih =>
      rw [readLater]
      by_cases hmore : message.length < length
      · have hpos : left ≠ 0 := by omega
        rw [dif_pos hmore, sub?_of_le h, hleft, readLater_of_pos hpos]
        simp only [expectHeader_eq, access_some, take_eq, lift_adaptExcept, pure_bind, lift_bind,
          bind_assoc]
        refine bind_congr fun _ => take_bind_congr fun block hblock => ?_
        -- The next packet brings something, and no more than is missing.
        have hroom : 0 < laterRoom := by decide
        have hsome : 0 < block.length := by omega
        have hfits : (message ++ block).length ≤ length := by
          rw [List.length_append]
          omega
        have hrest : length - (message ++ block).length = left - laterRoom := by
          rw [List.length_append]
          omega
        rw [dif_pos hsome, ih (left - laterRoom) (by omega) hfits (k + 1) hrest]
        simp only [lift_bind, lift_pure, List.append_assoc]
      · have hzero : left = 0 := by omega
        subst hzero
        rw [dif_neg hmore, readLater_zero, pure_bind, List.append_nil, lift_pure]

theorem readMessage_eq (raw : Bytes) : readMessage raw = lift (Frame.readMessage raw.length) := by
  rw [readMessage, Frame.readMessage]
  by_cases hshort : raw.length < firstHeaderSize
  · rw [if_pos hshort, if_pos hshort]
    rfl
  · rw [if_neg hshort, if_neg hshort]
    simp only [expectHeader_eq, uint16_eq, take_eq, framedLength?_eq, access_some,
      lift_adaptExcept, lift_bind, pure_bind]
    refine bind_congr fun _ => bind_congr fun word => ?_
    by_cases hcut : raw.length < framedLength word.toNat
    · rw [if_pos hcut, if_pos hcut]
      rfl
    · rw [if_neg hcut, if_neg hcut]
      simp only [lift_bind]
      refine take_bind_congr fun block hblock => ?_
      have hfits : block.length ≤ word.toNat := by omega
      have hrest : word.toNat - block.length = word.toNat - firstRoom := by omega
      rw [readLater_eq hfits, hrest]
      simp only [lift_bind, lift_pure, bind_assoc, pure_bind]
      rfl

theorem assemble?_eq (raw : Bytes) : assemble? raw = some (assemble raw) := by
  rw [assemble?, readMessage_eq, assemble]
  cases hread : Frame.readMessage raw.length raw with
  | ok result rest => exact outcome?_ok hread
  | error e rest => exact outcome?_error hread

end Checked

end TokenAgent
