import TokenAgent.Proofs.Frame.Reading

/-!
# Packing and assembling

Packing and assembling are inverse to each other, byte by byte:

* `assemble_take_packed` — on a growing start of the packets of a message, whatever follows
  them, assembling waits until the last byte of the message is there and then gives the message;
* `assemble_eq_complete_iff` — it gives a message for no other bytes than those.
-/

namespace TokenAgent

namespace Frame

variable {m raw : Bytes}

/-! ## From the wire form to the message -/

theorem assemble_wire (hfits : m.length ≤ maxMessage) (rest : Bytes) :
    assemble (wire m ++ rest) = .ok (.complete m) :=
  (Reading.whole hfits).assemble_eq

theorem assemble_take_wire (hfits : m.length ≤ maxMessage) {n : Nat}
    (hn : n < framedLength m.length) :
    assemble ((wire m).take n) = .ok .incomplete := by
  have hlength : ((wire m).take n).length = n := by
    simp [length_wire, Nat.le_of_lt hn]
  by_cases hshort : n < firstHeaderSize
  · -- The cut is inside the first header or the declared length.
    have hsize : ((wire m).take n).length < firstHeaderSize := by
      simpa [hlength] using hshort
    exact (Reading.short hsize).assemble_eq
  · -- The declared length is there, so it is known how much is missing.
    have hheader : (opening m.length).length ≤ n := by
      simpa using Nat.not_lt.1 hshort
    have hopening : ∃ rest, (wire m).take n = opening m.length ++ rest := by
      refine ⟨(m.take firstRoom ++ laterWire 1 (m.drop firstRoom)).take
        (n - (opening m.length).length), ?_⟩
      rw [wire_eq, List.take_append, List.take_of_length_le hheader]
    rcases hopening with ⟨rest, hrest⟩
    have hcut : (opening m.length ++ rest).length < framedLength m.length := by
      simpa only [← hrest, hlength] using hn
    rw [hrest]
    exact (Reading.waiting hfits hcut).assemble_eq

theorem assemble_packets (hfits : m.length ≤ maxMessage) :
    assemble ((packets m).flatMap Packet.toBytes) = .ok (.complete m) := by
  rcases flatMap_toBytes m with ⟨pad, hpad⟩
  rw [hpad]
  exact assemble_wire hfits _

/-- All packets but the last are not enough. -/
theorem assemble_take_packets (hfits : m.length ≤ maxMessage) {i : Nat}
    (hi : i < (packets m).length) :
    assemble (((packets m).take i).flatMap Packet.toBytes) = .ok .incomplete := by
  have hcut : packetSize * i < framedLength m.length := by
    have hheader := header_end_le hi
    simp only [headerSize] at hheader
    omega
  have hbefore := length_flatMap_take hi
  rcases flatMap_toBytes m with ⟨pad, hpad⟩
  have hstart : ((packets m).take i).flatMap Packet.toBytes = (wire m).take (packetSize * i) := by
    calc
      ((packets m).take i).flatMap Packet.toBytes
          = ((packets m).flatMap Packet.toBytes).take (packetSize * i) := by
            conv_rhs => rw [← List.take_append_drop i (packets m), List.flatMap_append]
            rw [List.take_left' hbefore]
      _ = (wire m).take (packetSize * i) := by
            rw [hpad, List.take_append_of_le_length]
            rw [length_wire]
            exact Nat.le_of_lt hcut
  rw [hstart]
  exact assemble_take_wire hfits hcut

/-- On any start of a packed message, with anything behind it, assembling waits for the last
byte of the message and then gives the message.  It has read no more than that: neither the
padding nor what follows matters.  Messages that cannot be declared are not packed. -/
theorem assemble_take_packed (m : Bytes) :
    (m.length ≤ 65535 →
      ∃ packed, packBytes m = .ok packed ∧
        ∀ (tail : Bytes) (n : Nat) (raw : Bytes), raw = (packed ++ tail).take n →
          (raw.length < framedLength m.length → assemble raw = .ok .incomplete) ∧
          (framedLength m.length ≤ raw.length →
            assemble raw = .ok (.complete m) ∧
            readMessage raw.length raw
              = .ok (.complete m) (raw.drop (framedLength m.length)) ∧
            ∀ other, assemble (raw.take (framedLength m.length) ++ other)
              = .ok (.complete m))) ∧
    (65535 < m.length →
      pack m = .error (.tooLarge m.length) ∧ packBytes m = .error (.tooLarge m.length)) := by
  constructor
  · intro hfits
    rcases packBytes_of_le hfits with ⟨pad, hpacked⟩
    refine ⟨wire m ++ List.replicate pad 0, hpacked, ?_⟩
    intro tail n raw hraw
    have hwire := length_wire m
    rw [List.append_assoc, List.take_append] at hraw
    constructor
    · intro hcut
      -- Less than the wire form is there, so the cut is inside it.
      have hn : n < framedLength m.length := by
        simp only [hraw, List.length_append, List.length_take] at hcut
        omega
      have hnone : n - (wire m).length = 0 := by
        omega
      rw [hraw, hnone, List.take_zero, List.append_nil]
      exact assemble_take_wire hfits hn
    · intro hthere
      -- All of the wire form is there; what follows it is padding and then the tail.
      have hall : (wire m).length ≤ n := by
        simp only [hraw, List.length_append, List.length_take] at hthere
        omega
      rw [List.take_of_length_le hall] at hraw
      have hfront : raw.take (framedLength m.length) = wire m := by
        rw [hraw]
        exact List.take_left' hwire
      refine ⟨?_, ?_, ?_⟩
      · rw [hraw]
        exact assemble_wire hfits _
      · rw [hraw, List.drop_left' hwire]
        exact readMessage_wire hfits _
      · intro other
        rw [hfront]
        exact assemble_wire hfits other
  · intro hlong
    exact ⟨pack_of_lt hlong, packBytes_of_lt hlong⟩

/-! ## From the message to the wire form -/

theorem eq_wire_of_assemble (h : assemble raw = .ok (.complete m)) :
    m.length ≤ maxMessage ∧ ∃ rest, raw = wire m ++ rest := by
  have hreading : Reading raw (.ok (.complete m)) := assemble_eq_iff.1 h
  cases hreading with
  | whole hfits => exact ⟨hfits, _, rfl⟩

/-- A buffer assembles to a message if and only if it begins with the bytes that packing this
message gives, up to its last byte.  So the header of every packet that is read is the one of
its place, and the declared length is the length of the message. -/
theorem assemble_eq_complete_iff (raw m : Bytes) :
    (assemble raw = .ok (.complete m) ↔
      m.length ≤ 65535 ∧ framedLength m.length ≤ raw.length ∧
        ∃ packed, packBytes m = .ok packed ∧
          raw.take (framedLength m.length) = packed.take (framedLength m.length)) ∧
    (assemble raw = .ok (.complete m) →
      (raw.drop headerSize).take 2 = Bytes.bigEndian 2 m.length ∧
      ∀ i < (packets m).length,
        (raw.drop (packetSize * i)).take headerSize
          = (Header.ofSequence (UInt16.ofNat i)).toBytes) := by
  constructor
  · constructor
    · intro h
      rcases eq_wire_of_assemble h with ⟨hfits, rest, rfl⟩
      rcases packBytes_of_le hfits with ⟨pad, hpacked⟩
      refine ⟨hfits, ?_, _, hpacked, ?_⟩
      · simp [length_wire]
      · rw [List.take_left' (length_wire m), List.take_left' (length_wire m)]
    · rintro ⟨hfits, _, packed, hpacked, htake⟩
      -- Packing has one result, so `packed` is the wire form and its padding.
      rcases packBytes_of_le hfits with ⟨pad, hpad⟩
      have hpackedEq : wire m ++ List.replicate pad 0 = packed := by
        simpa [hpacked] using hpad.symm
      rw [← hpackedEq, List.take_left' (length_wire m)] at htake
      -- The rest of the buffer plays no part.
      have hraw : raw = wire m ++ raw.drop (framedLength m.length) := by
        rw [← htake, List.take_append_drop]
      rw [hraw]
      exact assemble_wire hfits _
  · intro h
    rcases eq_wire_of_assemble h with ⟨hfits, rest, rfl⟩
    constructor
    · rw [wire_eq, opening]
      simp only [List.append_assoc]
      rw [List.drop_left' (Header.length_toBytes _), List.take_left' (Bytes.length_bigEndian 2 _)]
    · intro i hi
      have hinside := header_end_le hi
      rw [← length_wire] at hinside
      rw [← header_at hi, List.drop_append_of_le_length (by omega),
        List.take_append_of_le_length (by rw [List.length_drop]; omega)]

end Frame

end TokenAgent
