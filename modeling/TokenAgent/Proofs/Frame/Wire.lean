import TokenAgent.Frame.Packet
import TokenAgent.Proofs.Bytes

/-!
# The wire form of a message

A message travels in packets of equal size, so its last packet is padded.  What carries the
message is everything before the padding: its *wire form*.

* `Frame.wire` — all packets of a message, the last one unpadded;
* `Frame.length_wire` — it is as long as `framedLength` says;
* `Frame.flatMap_toBytes` — the packets are the wire form and zeros behind it;
* `Frame.framedLength_bounds` — the wire form ends inside the last packet.
-/

namespace TokenAgent

namespace Frame

/-- The packet without its padding. -/
def Packet.unpadded (p : Packet) : Bytes :=
  (Header.ofSequence p.sequence).toBytes ++ p.body

/-- The header of the first packet of a message, and the length that it declares. -/
def opening (length : Nat) : Bytes :=
  (Header.ofSequence 0).toBytes ++ Bytes.bigEndian 2 length

/-- Packets number `k`, `k + 1`, … with `data` in them, the last one unpadded. -/
def laterWire (k : Nat) (data : Bytes) : Bytes :=
  (laterPackets k (Bytes.chunks laterRoom data)).flatMap Packet.unpadded

/-- All packets of a message, the last one unpadded. -/
def wire (message : Bytes) : Bytes :=
  (packets message).flatMap Packet.unpadded

variable {m data : Bytes} {k : Nat}

/-! ## How the wire form begins and goes on -/

@[simp] theorem length_opening (length : Nat) : (opening length).length = firstHeaderSize := by
  simp [opening, firstHeaderSize]

theorem wire_eq (m : Bytes) :
    wire m = opening m.length ++ (m.take firstRoom ++ laterWire 1 (m.drop firstRoom)) := by
  simp [wire, packets, opening, laterWire, Packet.unpadded]

@[simp] theorem laterWire_nil (k : Nat) : laterWire k [] = [] := by
  simp [laterWire, laterPackets]

/-- A message that one packet holds. -/
theorem wire_of_le (h : m.length ≤ firstRoom) : wire m = opening m.length ++ m := by
  rw [wire_eq, List.take_of_length_le h, List.drop_eq_nil_of_le h, laterWire_nil, List.append_nil]

theorem laterWire_of_ne_nil (k : Nat) (h : data ≠ []) :
    laterWire k data = (Header.ofSequence (UInt16.ofNat k)).toBytes
      ++ (data.take laterRoom ++ laterWire (k + 1) (data.drop laterRoom)) := by
  rw [laterWire, Bytes.chunks_of_ne_nil (by decide) h]
  simp [laterPackets, Packet.unpadded, laterWire]

/-- A proof about data behind the first packet goes packet by packet: what follows the first
block of the data is data of the same kind. -/
@[elab_as_elim]
theorem data_induction {motive : Bytes → Prop} (data : Bytes) (nil : motive [])
    (block : ∀ data, data ≠ [] → motive (data.drop laterRoom) → motive data) : motive data := by
  induction hlength : data.length using Nat.strongRecOn generalizing data with
  | ind length ih =>
      by_cases hne : data = []
      · subst hne
        exact nil
      · have hpos : 0 < data.length := List.length_pos_iff.2 hne
        have hshorter : (data.drop laterRoom).length < length := by
          simp only [List.length_drop, laterRoom, packetSize, headerSize]
          omega
        exact block data hne (ih _ hshorter _ rfl)

/-- A block in front of the data travels in a packet of its own. -/
theorem laterWire_append {block : Bytes} (k : Nat) (hne : block ≠ [])
    (hle : block.length ≤ laterRoom) (hfull : data ≠ [] → block.length = laterRoom) :
    laterWire k (block ++ data) = (Header.ofSequence (UInt16.ofNat k)).toBytes
      ++ (block ++ laterWire (k + 1) data) := by
  have hwhole : block ++ data ≠ [] := by
    intro hnil
    exact hne (List.append_eq_nil_iff.1 hnil).1
  rcases Bytes.take_drop_block hle hfull with ⟨htake, hdrop⟩
  rw [laterWire_of_ne_nil k hwhole, htake, hdrop]

/-- The block in front of a message travels in the first packet. -/
theorem wire_append {block : Bytes} (hle : block.length ≤ firstRoom)
    (hfull : data ≠ [] → block.length = firstRoom) :
    wire (block ++ data) = opening (block ++ data).length ++ (block ++ laterWire 1 data) := by
  rcases Bytes.take_drop_block hle hfull with ⟨htake, hdrop⟩
  rw [wire_eq, htake, hdrop]

/-! ## Its length -/

theorem length_laterWire (k : Nat) (data : Bytes) :
    (laterWire k data).length
      = data.length + (data.length + laterRoom - 1) / laterRoom * headerSize := by
  induction data using data_induction generalizing k with
  | nil =>
      rw [laterWire_nil]
      rfl
  | block data hne ih =>
      have hpos : 0 < data.length := List.length_pos_iff.2 hne
      rw [laterWire_of_ne_nil k hne]
      simp only [List.length_append, Header.length_toBytes, List.length_take, ih, List.length_drop]
      -- One block is one header more, also when it is the last and not full.
      simp only [laterRoom, packetSize, headerSize]
      omega

/-- The first packet and the later ones, each with a header of its own. -/
theorem framedLength_eq (length : Nat) :
    framedLength length = firstHeaderSize + (min length firstRoom
      + (length - firstRoom + (length - firstRoom + laterRoom - 1) / laterRoom * headerSize)) := by
  rw [framedLength]
  by_cases h : length ≤ firstRoom
  · rw [if_pos h]
    simp only [firstHeaderSize, firstRoom, laterRoom, packetSize, headerSize] at h ⊢
    omega
  · rw [if_neg h]
    simp only [firstHeaderSize, firstRoom, laterRoom, packetSize, headerSize] at h ⊢
    omega

theorem length_wire (m : Bytes) : (wire m).length = framedLength m.length := by
  rw [framedLength_eq, wire_eq]
  simp only [List.length_append, length_opening, length_laterWire, List.length_take,
    List.length_drop, Nat.min_comm]

/-- One byte more than fits into the packets is a header more as well. -/
example : [57, 58, 116, 117].map framedLength = [64, 70, 128, 134] := by decide

theorem firstHeaderSize_le (length : Nat) : firstHeaderSize ≤ framedLength length := by
  rw [framedLength_eq]
  exact Nat.le_add_right _ _

/-! ## Packets and their padding -/

/-- A packet that is full has no padding. -/
theorem Packet.toBytes_of_full {p : Packet} (h : p.body.length = laterRoom) :
    p.toBytes = p.unpadded := by
  simp [toBytes, unpadded, h]

theorem Packet.length_toBytes {p : Packet} (h : p.body.length ≤ laterRoom) :
    p.toBytes.length = packetSize := by
  simp only [toBytes, List.length_append, Header.length_toBytes, List.length_replicate]
  simp only [laterRoom, packetSize, headerSize] at h ⊢
  omega

theorem flatMap_toBytes_later (k : Nat) (data : Bytes) :
    ∃ pad, (laterPackets k (Bytes.chunks laterRoom data)).flatMap Packet.toBytes
      = laterWire k data ++ List.replicate pad 0 := by
  induction data using data_induction generalizing k with
  | nil =>
      refine ⟨0, ?_⟩
      simp [laterPackets]
  | block data hne ih =>
      rw [laterWire_of_ne_nil k hne, Bytes.chunks_of_ne_nil (by decide) hne, laterPackets,
        List.flatMap_cons]
      by_cases hlast : data.length ≤ laterRoom
      · -- The last packet is the one that is padded.
        have hdone : data.drop laterRoom = [] := List.drop_eq_nil_of_le hlast
        refine ⟨laterRoom - (data.take laterRoom).length, ?_⟩
        simp [hdone, laterPackets, Packet.toBytes]
      · have hfull : (data.take laterRoom).length = laterRoom := by
          rw [List.length_take]
          omega
        rcases ih (k + 1) with ⟨pad, hpad⟩
        refine ⟨pad, ?_⟩
        rw [hpad, Packet.toBytes_of_full hfull]
        simp [Packet.unpadded]

/-- The packets of a message are its wire form and zeros behind it. -/
theorem flatMap_toBytes (m : Bytes) :
    ∃ pad, (packets m).flatMap Packet.toBytes = wire m ++ List.replicate pad 0 := by
  rw [wire_eq, packets, List.flatMap_cons]
  by_cases hlast : m.length ≤ firstRoom
  · have hdone : m.drop firstRoom = [] := List.drop_eq_nil_of_le hlast
    refine ⟨laterRoom - (2 + (m.take firstRoom).length), ?_⟩
    simp [hdone, laterPackets, Packet.toBytes, opening]
  · have hfull : (Bytes.bigEndian 2 m.length ++ m.take firstRoom).length = laterRoom := by
      rw [List.length_append, Bytes.length_bigEndian, List.length_take]
      simp only [firstRoom, firstHeaderSize, laterRoom, packetSize, headerSize] at hlast ⊢
      omega
    rcases flatMap_toBytes_later 1 (m.drop firstRoom) with ⟨pad, hpad⟩
    refine ⟨pad, ?_⟩
    rw [hpad, Packet.toBytes_of_full hfull]
    simp [Packet.unpadded, opening]

/-! ## Counting packets -/

theorem length_laterPackets (k : Nat) (blocks : List Bytes) :
    (laterPackets k blocks).length = blocks.length := by
  induction blocks generalizing k with
  | nil => rfl
  | cons block rest ih => rw [laterPackets, List.length_cons, List.length_cons, ih]

theorem length_packets (m : Bytes) :
    (packets m).length = 1 + (m.length - firstRoom + (laterRoom - 1)) / laterRoom := by
  rw [packets, List.length_cons, length_laterPackets, Bytes.length_chunks (by decide),
    List.length_drop, Nat.add_comm]

/-- The wire form ends in the last packet, and behind the header of that packet. -/
theorem framedLength_bounds (m : Bytes) :
    packetSize * ((packets m).length - 1) + headerSize < framedLength m.length
      ∧ framedLength m.length ≤ packetSize * (packets m).length := by
  rw [length_packets, framedLength]
  by_cases h : m.length ≤ firstRoom
  · rw [if_pos h]
    simp only [firstHeaderSize, firstRoom, laterRoom, packetSize, headerSize] at h ⊢
    omega
  · rw [if_neg h]
    simp only [firstHeaderSize, firstRoom, laterRoom, packetSize, headerSize] at h ⊢
    omega

theorem getElem?_laterPackets (k i : Nat) (blocks : List Bytes) :
    (laterPackets k blocks)[i]? = blocks[i]?.map fun block => ⟨UInt16.ofNat (k + i), block⟩ := by
  induction blocks generalizing k i with
  | nil => rfl
  | cons block rest ih =>
      cases i with
      | zero => rfl
      | succ i =>
          have hnumber : k + 1 + i = k + (i + 1) := by omega
          rw [laterPackets, List.getElem?_cons_succ, List.getElem?_cons_succ, ih, hnumber]

/-- Packets are numbered from zero and never hold more than fits behind their header. -/
theorem packet_spec {i : Nat} {p : Packet} (h : (packets m)[i]? = some p) :
    p.sequence = UInt16.ofNat i ∧ p.body.length ≤ laterRoom := by
  cases i with
  | zero =>
      have hfirst : (⟨0, Bytes.bigEndian 2 m.length ++ m.take firstRoom⟩ : Packet) = p := by
        simpa [packets] using h
      subst hfirst
      refine ⟨rfl, ?_⟩
      simp only [List.length_append, Bytes.length_bigEndian, List.length_take]
      simp only [firstRoom, firstHeaderSize, laterRoom, packetSize, headerSize]
      omega
  | succ i =>
      rw [packets, List.getElem?_cons_succ, getElem?_laterPackets] at h
      rcases Option.map_eq_some_iff.1 h with ⟨block, hblock, rfl⟩
      have hmem := List.mem_of_getElem? hblock
      refine ⟨?_, Bytes.length_le_of_mem_chunks (by decide) hmem⟩
      rw [Nat.add_comm]

theorem body_length_le {p : Packet} (h : p ∈ packets m) : p.body.length ≤ laterRoom := by
  rcases List.getElem?_of_mem h with ⟨i, hi⟩
  exact (packet_spec hi).2

theorem length_packets_le (hfits : m.length ≤ maxMessage) : (packets m).length ≤ 1111 := by
  rw [length_packets]
  simp only [maxMessage, firstRoom, firstHeaderSize, laterRoom, packetSize, headerSize] at hfits ⊢
  omega

/-- The numbers of the packets of a message that can be packed fit their word. -/
theorem sequence_toNat (hfits : m.length ≤ maxMessage) {i : Nat} {p : Packet}
    (h : (packets m)[i]? = some p) : p.sequence.toNat = i := by
  have hcount : i < (packets m).length := (List.getElem?_eq_some_iff.1 h).1
  have hsmall : i < 2 ^ 16 := by
    have hfew := length_packets_le hfits
    omega
  rw [(packet_spec h).1, UInt16.toNat_ofNat_of_lt' hsmall]

/-- So they do not come back to zero. -/
theorem sequence_ne_zero (hfits : m.length ≤ maxMessage) :
    ∀ p ∈ (packets m).tail, p.sequence ≠ 0 := by
  intro p hmem hzero
  rcases List.getElem?_of_mem hmem with ⟨i, hi⟩
  rw [List.getElem?_tail] at hi
  have hnumber := sequence_toNat hfits hi
  rw [hzero] at hnumber
  exact Nat.succ_ne_zero i hnumber.symm

theorem length_flatMap_toBytes {ps : List Packet} (h : ∀ p ∈ ps, p.body.length ≤ laterRoom) :
    (ps.flatMap Packet.toBytes).length = packetSize * ps.length := by
  induction ps with
  | nil => rfl
  | cons p rest ih =>
      -- Padding makes every packet equally long.
      have hhead := Packet.length_toBytes (h p List.mem_cons_self)
      have htail := ih fun q hq => h q (List.mem_cons_of_mem p hq)
      rw [List.flatMap_cons, List.length_append, hhead, htail, List.length_cons, Nat.mul_succ,
        Nat.add_comm]

theorem length_flatMap_take {i : Nat} (h : i < (packets m).length) :
    (((packets m).take i).flatMap Packet.toBytes).length = packetSize * i := by
  have hrooms : ∀ p ∈ (packets m).take i, p.body.length ≤ laterRoom := by
    intro p hmem
    exact body_length_le (List.mem_of_mem_take hmem)
  simpa [List.length_take, Nat.min_eq_left (Nat.le_of_lt h)] using length_flatMap_toBytes hrooms

theorem header_end_le {i : Nat} (h : i < (packets m).length) :
    packetSize * i + headerSize ≤ framedLength m.length := by
  have hbounds := (framedLength_bounds m).1
  have hlast : packetSize * i ≤ packetSize * ((packets m).length - 1) :=
    Nat.mul_le_mul_left packetSize (Nat.le_sub_one_of_lt h)
  omega

/-- Packet number `i` starts at byte `64 * i` of the wire form, with the header of its number. -/
theorem header_at {i : Nat} (h : i < (packets m).length) :
    ((wire m).drop (packetSize * i)).take headerSize
      = (Header.ofSequence (UInt16.ofNat i)).toBytes := by
  -- The header lies inside the wire form, so it is found in the packets, at the front of the
  -- one that has `i` full packets before it.
  have hp : (packets m)[i]? = some (packets m)[i] := List.getElem?_eq_getElem h
  have hsequence : ((packets m)[i]).sequence = UInt16.ofNat i := (packet_spec hp).1
  have hbefore := length_flatMap_take h
  have hinside : packetSize * i + headerSize ≤ (wire m).length := by
    simpa [length_wire] using header_end_le h
  rcases flatMap_toBytes m with ⟨pad, hpad⟩
  calc
    ((wire m).drop (packetSize * i)).take headerSize
        = ((wire m ++ List.replicate pad 0).drop (packetSize * i)).take headerSize := by
          rw [List.drop_append_of_le_length (by omega),
            List.take_append_of_le_length (by rw [List.length_drop]; omega)]
    _ = (((packets m).flatMap Packet.toBytes).drop (packetSize * i)).take headerSize := by
          rw [hpad]
    _ = (((packets m).drop i).flatMap Packet.toBytes).take headerSize := by
          conv_lhs => rw [← List.take_append_drop i (packets m), List.flatMap_append]
          rw [List.drop_left' hbefore]
    _ = (Header.ofSequence (UInt16.ofNat i)).toBytes := by
          rw [List.drop_eq_getElem_cons h, List.flatMap_cons, Packet.toBytes, hsequence]
          simp only [List.append_assoc]
          exact List.take_left' (Header.length_toBytes _)

/-! ## Packing -/

theorem packBytes_of_le (h : m.length ≤ maxMessage) :
    ∃ pad, packBytes m = .ok (wire m ++ List.replicate pad 0) := by
  rcases flatMap_toBytes m with ⟨pad, hpad⟩
  refine ⟨pad, ?_⟩
  rw [← hpad, packBytes, pack, if_pos h]
  rfl

theorem pack_of_lt (h : maxMessage < m.length) : pack m = .error (.tooLarge m.length) := by
  rw [pack, if_neg (Nat.not_le.2 h)]

theorem packBytes_of_lt (h : maxMessage < m.length) :
    packBytes m = .error (.tooLarge m.length) := by
  rw [packBytes, pack_of_lt h]
  rfl

end Frame

end TokenAgent
