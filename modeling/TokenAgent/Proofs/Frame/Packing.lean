import TokenAgent.Proofs.Frame.RoundTrip

/-!
# How a message lies in its packets

A message takes as many packets as its wire form calls for.  Each packet tells its place, the
first one also the length of the message, and behind these headers the packets carry the message
and then zeros: only the last packet has room left.

* `Frame.length_packets_eq` — the number of packets, from the length of the wire form;
* `Frame.dataAreas_packets` — what the packets carry behind their headers;
* `Frame.LaidOut` — all of this, told by the bytes of the packets alone;
* `Frame.pack_lays_out` — packing lays every message out so.
-/

namespace TokenAgent

namespace Frame

variable {m : Bytes}

/-! ## The number of packets -/

/-- One byte more is one byte more on the wire, or six where a packet has to be added. -/
theorem framedLength_lt_succ (length : Nat) : framedLength length < framedLength (length + 1) := by
  rw [framedLength_eq, framedLength_eq]
  simp only [firstHeaderSize, firstRoom, laterRoom, packetSize, headerSize]
  omega

theorem framedLength_strictMono : StrictMono framedLength :=
  strictMono_nat_of_lt_succ framedLength_lt_succ

/-- The wire form is cut into packets, the last one rounded up. -/
theorem length_packets_eq (m : Bytes) :
    (packets m).length = (framedLength m.length + (packetSize - 1)) / packetSize := by
  have hbounds := framedLength_bounds m
  simp only [packetSize, headerSize] at hbounds ⊢
  omega

/-! ## Data -/

/-- A block, filled up with zeros. -/
def filled (room : Nat) (block : Bytes) : Bytes :=
  block ++ List.replicate (room - block.length) 0

/-- What packets carry behind their headers, zeros included. -/
def dataAreas : List Bytes → List Bytes
  | [] => []
  | first :: later => first.drop firstHeaderSize :: later.map fun frame => frame.drop headerSize

/-- Channel, tag, sequence number, and what the packet carries. -/
theorem Packet.toBytes_eq (p : Packet) :
    p.toBytes = [0x01, 0x01, 0x05]
      ++ (Bytes.bigEndian 2 p.sequence.toNat ++ filled laterRoom p.body) := by
  have hchannel : Bytes.bigEndian 2 Frame.channel.toNat = [0x01, 0x01] := by decide
  simp [toBytes, Header.toBytes, Header.ofSequence, filled, hchannel, Frame.tag]

theorem filled_of_full {room : Nat} {block : Bytes} (h : block.length = room) :
    filled room block = block := by
  simp [filled, h]

theorem map_filled_of_full {room : Nat} {blocks : List Bytes}
    (h : ∀ block ∈ blocks, block.length = room) : blocks.map (filled room) = blocks := by
  conv_rhs => rw [← List.map_id blocks]
  exact List.map_congr_left fun block hmem => filled_of_full (h block hmem)

theorem drop_toBytes (p : Packet) : p.toBytes.drop headerSize = filled laterRoom p.body := by
  rw [Packet.toBytes, List.append_assoc]
  exact List.drop_left' (Header.length_toBytes _)

theorem dataAreas_laterPackets (k : Nat) (blocks : List Bytes) :
    ((laterPackets k blocks).map Packet.toBytes).map (fun frame => frame.drop headerSize)
      = blocks.map (filled laterRoom) := by
  induction blocks generalizing k with
  | nil => rfl
  | cons block rest ih =>
      rw [laterPackets, List.map_cons, List.map_cons, List.map_cons, ih, drop_toBytes]

/-- The first packet has two bytes less to carry data in. -/
theorem drop_first (length : Nat) (block : Bytes) :
    (Packet.toBytes ⟨0, Bytes.bigEndian 2 length ++ block⟩).drop firstHeaderSize
      = filled firstRoom block := by
  have hroom : laterRoom - (Bytes.bigEndian 2 length ++ block).length
      = firstRoom - block.length := by
    rw [List.length_append, Bytes.length_bigEndian]
    simp only [laterRoom, firstRoom, firstHeaderSize, packetSize, headerSize]
    omega
  rw [firstHeaderSize, ← List.drop_drop, drop_toBytes, filled, hroom, List.append_assoc]
  exact List.drop_left' (Bytes.length_bigEndian 2 length)

theorem dataAreas_packets (m : Bytes) :
    dataAreas ((packets m).map Packet.toBytes)
      = filled firstRoom (m.take firstRoom)
        :: (Bytes.chunks laterRoom (m.drop firstRoom)).map (filled laterRoom) := by
  rw [packets, List.map_cons, dataAreas, drop_first, dataAreas_laterPackets]

/-- The data areas hold the message and then zeros, and only the last one holds zeros. -/
theorem exists_dataAreas (m : Bytes) :
    ∃ full last pad, dataAreas ((packets m).map Packet.toBytes)
        = full ++ [last ++ List.replicate pad 0] ∧
      m = full.flatten ++ last ∧ (last = [] → full = []) := by
  rw [dataAreas_packets]
  by_cases hone : m.length ≤ firstRoom
  · -- One packet holds the whole message, which may be empty.
    refine ⟨[], m, firstRoom - m.length, ?_, rfl, fun _ => rfl⟩
    rw [List.take_of_length_le hone, List.drop_eq_nil_of_le hone, Bytes.chunks_nil]
    rfl
  · have hfirst : (m.take firstRoom).length = firstRoom := by
      rw [List.length_take]
      omega
    have hrest : (Bytes.chunks laterRoom (m.drop firstRoom)).flatten = m.drop firstRoom :=
      Bytes.flatten_chunks laterRoom _
    have hfull : ∀ block ∈ (Bytes.chunks laterRoom (m.drop firstRoom)).dropLast,
        block.length = laterRoom :=
      fun block hmem => Bytes.length_of_mem_dropLast_chunks (by decide) hmem
    have hblocks : Bytes.chunks laterRoom (m.drop firstRoom) ≠ [] := by
      intro hnil
      rw [hnil] at hrest
      have hlength := congrArg List.length hrest
      simp only [List.flatten_nil, List.length_nil, List.length_drop] at hlength
      omega
    have hlast := Bytes.ne_nil_of_mem_chunks (List.getLast_mem hblocks)
    generalize Bytes.chunks laterRoom (m.drop firstRoom) = blocks at *
    refine ⟨m.take firstRoom :: blocks.dropLast, blocks.getLast hblocks,
      laterRoom - (blocks.getLast hblocks).length, ?_, ?_, fun hempty => absurd hempty hlast⟩
    · conv_lhs => rw [← List.dropLast_append_getLast hblocks]
      rw [filled_of_full hfirst, List.map_append, map_filled_of_full hfull]
      rfl
    · calc
        m = m.take firstRoom ++ m.drop firstRoom := (List.take_append_drop firstRoom m).symm
        _ = m.take firstRoom ++ (blocks.dropLast ++ [blocks.getLast hblocks]).flatten := by
              rw [List.dropLast_append_getLast, hrest]
        _ = (m.take firstRoom :: blocks.dropLast).flatten ++ blocks.getLast hblocks := by
              simp

/-! ## The layout of a message -/

/-- Packets that carry a message, told by their bytes. -/
structure LaidOut (m : Bytes) (frames : List Bytes) : Prop where
  /-- As many as the wire form calls for, and never more than their numbers can tell apart. -/
  count : frames.length = (framedLength m.length + 63) / 64 ∧ 1 ≤ frames.length ∧
    frames.length ≤ 1111
  header : ∀ k frame, frames[k]? = some frame → frame.length = 64 ∧
    Bytes.ofBigEndian (frame.take 2) = 0x0101 ∧ frame[2]? = some 0x05 ∧
    Bytes.ofBigEndian ((frame.drop 3).take 2) = k
  declared : ∃ first, frames[0]? = some first ∧
    Bytes.ofBigEndian ((first.drop 5).take 2) = m.length
  /-- Only the last packet has room left, and it is not empty unless the message is. -/
  data : ∃ full last pad, dataAreas frames = full ++ [last ++ List.replicate pad 0] ∧
    m = full.flatten ++ last ∧ (last = [] → full = [])
  bracket : 64 * (frames.length - 1) < framedLength m.length ∧
    framedLength m.length ≤ 64 * frames.length
  /-- The message is there with its last packet, and not before. -/
  waiting : ∀ i < frames.length, assemble (frames.take i).flatten = .ok .incomplete
  whole : assemble frames.flatten = .ok (.complete m)

theorem laidOut_packets (hfits : m.length ≤ maxMessage) :
    LaidOut m ((packets m).map Packet.toBytes) where
  count := by
    rw [List.length_map]
    refine ⟨length_packets_eq m, ?_, length_packets_le hfits⟩
    exact Nat.succ_le_succ (Nat.zero_le _)
  header := by
    intro k frame hframe
    rw [List.getElem?_map] at hframe
    rcases Option.map_eq_some_iff.1 hframe with ⟨p, hp, rfl⟩
    have hsequence := sequence_toNat hfits hp
    have hbytes := p.toBytes_eq
    refine ⟨Packet.length_toBytes (packet_spec hp).2, ?_, ?_, ?_⟩
    · rw [hbytes]
      rfl
    · rw [hbytes]
      rfl
    · have hdrop : p.toBytes.drop 3
          = Bytes.bigEndian 2 p.sequence.toNat ++ filled laterRoom p.body := by
        rw [hbytes]
        rfl
      have hword : (p.toBytes.drop 3).take 2 = Bytes.bigEndian 2 k := by
        rw [hdrop, List.take_left' (Bytes.length_bigEndian 2 _), hsequence]
      have hsmall : k < 256 ^ 2 := hsequence ▸ p.sequence.toNat_lt
      rw [hword, Bytes.ofBigEndian_bigEndian hsmall]
  declared := by
    refine ⟨_, rfl, ?_⟩
    have hword : ((Packet.toBytes ⟨0, Bytes.bigEndian 2 m.length ++ m.take firstRoom⟩).drop
        headerSize).take 2 = Bytes.bigEndian 2 m.length := by
      rw [drop_toBytes, filled, List.append_assoc]
      exact List.take_left' (Bytes.length_bigEndian 2 _)
    rw [headerSize] at hword
    rw [hword]
    exact Bytes.ofBigEndian_bigEndian (Nat.lt_succ_of_le hfits)
  data := exists_dataAreas m
  bracket := by
    have hbounds := framedLength_bounds m
    rw [List.length_map]
    simp only [packetSize, headerSize] at hbounds
    omega
  waiting := by
    intro i hi
    rw [List.length_map] at hi
    rw [← List.map_take, ← List.flatMap_def]
    exact assemble_take_packets hfits hi
  whole := by
    rw [← List.flatMap_def]
    exact assemble_packets hfits

/-- Every message whose length can be declared is packed, and so laid out that only its last
packet has room left: fewer packets do not hold it.  A longer message takes more bytes on the
wire. -/
theorem pack_lays_out :
    (∀ m : Bytes, m.length ≤ 65535 → ∃ ps, pack m = .ok ps ∧
      LaidOut m (ps.map Packet.toBytes) ∧ packBytes m = .ok (ps.map Packet.toBytes).flatten) ∧
    ∀ short long, short < long → framedLength short < framedLength long := by
  refine ⟨?_, fun _ _ h => framedLength_strictMono h⟩
  intro m hfits
  have hpack : pack m = .ok (packets m) := if_pos hfits
  refine ⟨packets m, hpack, laidOut_packets hfits, ?_⟩
  rw [packBytes, hpack, ← List.flatMap_def]
  rfl

end Frame

end TokenAgent
