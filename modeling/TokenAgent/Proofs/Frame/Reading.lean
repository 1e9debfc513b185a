import TokenAgent.Proofs.Frame.Wire
import TokenAgent.Proofs.Reader

/-!
# What a buffer holds

`Frame.Reading raw outcome` says, without reading anything, what the bytes `raw` amount to as the
start of a message.  There are five forms of a buffer, told apart by how far its packets are as
they have to be:

* not even the header of the first packet and the declared length are there;
* the header of the first packet is wrong;
* the declared length is there, but the message is not;
* the message is there, but the header of a later packet is wrong;
* the buffer begins with the wire form of a message.

`assemble_eq_iff` ties the relation to the reader: `assemble raw` is the outcome of `raw`.
-/

namespace TokenAgent

namespace Frame

open Running

/-- What the bytes of a buffer amount to. -/
inductive Reading : Bytes → Except FramingError Assembly → Prop where
  /-- The first header or the declared length is cut. -/
  | short {raw : Bytes} (hsize : raw.length < firstHeaderSize) :
      Reading raw (.ok .incomplete)
  /-- The first header is wrong. -/
  | firstFault {h : Header} {rest : Bytes} {e : FramingError} (hsize : 2 ≤ rest.length)
      (hcheck : h.check 0 = .error e) :
      Reading (h.toBytes ++ rest) (.error e)
  /-- A message of `length` bytes is cut. -/
  | waiting {length : Nat} {rest : Bytes} (hfits : length ≤ maxMessage)
      (hsize : (opening length ++ rest).length < framedLength length) :
      Reading (opening length ++ rest) (.ok .incomplete)
  /-- All bytes of a message are there, but the header of packet `i + 1` is wrong. -/
  | laterFault {length i : Nat} {first data rest : Bytes} {h : Header} {e : FramingError}
      (hfits : length ≤ maxMessage) (hfirst : first.length = firstRoom)
      (hdata : data.length = laterRoom * i) (hmore : first.length + data.length < length)
      (hcheck : h.check (UInt16.ofNat (i + 1)) = .error e)
      (hsize : framedLength length
        ≤ (opening length ++ (first ++ (laterWire 1 data ++ (h.toBytes ++ rest)))).length) :
      Reading (opening length ++ (first ++ (laterWire 1 data ++ (h.toBytes ++ rest)))) (.error e)
  /-- A whole message, and whatever follows it. -/
  | whole {message rest : Bytes} (hfits : message.length ≤ maxMessage) :
      Reading (wire message ++ rest) (.ok (.complete message))

variable {raw rest data : Bytes} {outcome : Except FramingError Assembly}

/-! ## Later packets -/

theorem readLater_zero (k : UInt16) : readLater k 0 = pure [] := by
  rw [readLater, dif_pos rfl]

theorem readLater_of_pos {k : UInt16} {left : Nat} (h : left ≠ 0) :
    readLater k left = do
      expectHeader k
      let block ← (Reader.take (min left laterRoom)).orElseFail .truncated
      return block ++ (← readLater (k + 1) (left - laterRoom)) := by
  rw [readLater, dif_neg h]

theorem ofNat_succ (k : Nat) : UInt16.ofNat k + 1 = UInt16.ofNat (k + 1) := by
  rw [UInt16.ofNat_add]
  rfl

/-- One packet that is as it has to be: its block is read, and then the packets behind it. -/
theorem readLater_block {k left : Nat} {block : Bytes} (hleft : left ≠ 0)
    (hblock : block.length = min left laterRoom) (rest : Bytes) :
    readLater (UInt16.ofNat k) left
        ((Header.ofSequence (UInt16.ofNat k)).toBytes ++ (block ++ rest)) =
      (do return block ++ (← readLater (UInt16.ofNat (k + 1)) (left - laterRoom))) rest := by
  have htake : ((Reader.take (min left laterRoom)).orElseFail FramingError.truncated)
      (block ++ rest) = .ok block rest :=
    adaptExcept_ok (Reader.take_of_length rest hblock)
  rw [readLater_of_pos hleft, bind_ok (expectHeader_ofSequence _ _), bind_ok htake, ofNat_succ]

/-- Reading gives back the data of later packets, and stops where they end. -/
theorem readLater_laterWire (k : Nat) (data rest : Bytes) :
    readLater (UInt16.ofNat k) data.length (laterWire k data ++ rest) = .ok data rest := by
  induction data using data_induction generalizing k with
  | nil =>
      rw [laterWire_nil, List.length_nil, readLater_zero]
      rfl
  | block data hne ih =>
      have hleft : data.length ≠ 0 := by
        simpa using hne
      have hblock : (data.take laterRoom).length = min data.length laterRoom := by
        rw [List.length_take, Nat.min_comm]
      rw [laterWire_of_ne_nil k hne]
      simp only [List.append_assoc]
      rw [readLater_block hleft hblock, ← List.length_drop, bind_ok (ih (k + 1)),
        List.take_append_drop]
      rfl

/-- Reading stops at a wrong header, with the fault that the check of this header finds. -/
theorem readLater_fault {k i left : Nat} {h : Header} {e : FramingError}
    (hdata : data.length = laterRoom * i) (hmore : data.length < left)
    (hcheck : h.check (UInt16.ofNat (k + i)) = .error e) :
    readLater (UInt16.ofNat k) left (laterWire k data ++ (h.toBytes ++ rest)) = .error e rest := by
  have hleft : left ≠ 0 := Nat.ne_of_gt (Nat.zero_lt_of_lt hmore)
  -- Every packet before the wrong one is full, and one of them is read in each step.
  induction i generalizing k left data with
  | zero =>
      have hnil : data = [] := List.eq_nil_of_length_eq_zero hdata
      subst hnil
      rw [readLater_of_pos hleft, laterWire_nil, List.nil_append]
      exact bind_error (expectHeader_of_fault rest hcheck)
  | succ i ih =>
      have hroom : laterRoom ≤ data.length := by
        rw [hdata, Nat.mul_succ]
        exact Nat.le_add_left _ _
      have hne : data ≠ [] := by
        intro hnil
        rw [hnil] at hroom
        exact absurd hroom (by decide)
      have hblock : (data.take laterRoom).length = min left laterRoom := by
        rw [List.length_take]
        omega
      have hdrop : (data.drop laterRoom).length = laterRoom * i := by
        rw [List.length_drop, hdata, Nat.mul_succ]
        exact Nat.add_sub_cancel _ _
      have hstill : (data.drop laterRoom).length < left - laterRoom := by
        rw [List.length_drop]
        omega
      have hcheck' : h.check (UInt16.ofNat (k + 1 + i)) = .error e := by
        simpa only [Nat.add_assoc, Nat.add_comm 1 i] using hcheck
      rw [laterWire_of_ne_nil k hne]
      simp only [List.append_assoc]
      rw [readLater_block hleft hblock]
      exact bind_error (ih hdrop hstill hcheck' (Nat.ne_of_gt (Nat.zero_lt_of_lt hstill)))

/-- What the bytes behind the first packet amount to, once enough of them are there: either
`left` bytes of data in packets `k`, `k + 1`, …, or packets up to one with a wrong header. -/
inductive LaterReading (k left : Nat) : Bytes → Prop where
  | whole {data rest : Bytes} (hdata : data.length = left) :
      LaterReading k left (laterWire k data ++ rest)
  | fault {i : Nat} {data rest : Bytes} {h : Header} {e : FramingError}
      (hdata : data.length = laterRoom * i) (hmore : data.length < left)
      (hcheck : h.check (UInt16.ofNat (k + i)) = .error e) :
      LaterReading k left (laterWire k data ++ (h.toBytes ++ rest))

/-- A packet in front, with as much of the data as it can hold, changes nothing of that. -/
theorem LaterReading.block {k left : Nat} {block unread : Bytes} (hleft : left ≠ 0)
    (hblock : block.length = min left laterRoom)
    (h : LaterReading (k + 1) (left - laterRoom) unread) :
    LaterReading k left
      ((Header.ofSequence (UInt16.ofNat k)).toBytes ++ (block ++ unread)) := by
  have hroom : 0 < laterRoom := by decide
  have hle : block.length ≤ laterRoom := by omega
  have hne : block ≠ [] := by
    intro hnil
    rw [hnil, List.length_nil] at hblock
    omega
  cases h with
  | @whole data rest hdata =>
      -- Data is left over only if the block is full.
      have hfull : data ≠ [] → block.length = laterRoom := by
        intro hmore
        have hpos : 0 < data.length := List.length_pos_iff.2 hmore
        omega
      have hlength : (block ++ data).length = left := by
        rw [List.length_append]
        omega
      have hwhole : LaterReading k left (laterWire k (block ++ data) ++ rest) := .whole hlength
      simpa only [laterWire_append k hne hle hfull, List.append_assoc] using hwhole
  | @fault i data rest h e hdata hmore hcheck =>
      have hfull : block.length = laterRoom := by omega
      have hlength : (block ++ data).length = laterRoom * (i + 1) := by
        rw [List.length_append, Nat.mul_succ]
        omega
      have hcut : (block ++ data).length < left := by
        rw [List.length_append]
        omega
      have hcheck' : h.check (UInt16.ofNat (k + (i + 1))) = .error e := by
        simpa only [Nat.add_assoc, Nat.add_comm 1 i] using hcheck
      have hfault : LaterReading k left (laterWire k (block ++ data) ++ (h.toBytes ++ rest)) :=
        .fault hlength hcut hcheck'
      simpa only [laterWire_append k hne hle (fun _ => hfull), List.append_assoc] using hfault

/-- Enough bytes for `left` bytes of data and their headers are of one of the two forms. -/
theorem laterReading_of_length (k left : Nat) {unread : Bytes}
    (hsize : left + (left + laterRoom - 1) / laterRoom * headerSize ≤ unread.length) :
    LaterReading k left unread := by
  -- The data itself is not known yet, so the induction is on how much of it is still to come.
  induction left using Nat.strongRecOn generalizing k unread with
  | ind left ih =>
      by_cases hzero : left = 0
      · subst hzero
        have hwhole : LaterReading k 0 (laterWire k [] ++ unread) := .whole List.length_nil
        simpa using hwhole
      · have hheader : headerSize ≤ unread.length := by
          simp only [laterRoom, packetSize, headerSize] at hsize ⊢
          omega
        rcases exists_header hheader with ⟨h, behind, rfl⟩
        cases hcheck : h.check (UInt16.ofNat k) with
        | error e =>
            -- No packet before this header, and no data in them.
            have hfault : LaterReading k left (laterWire k [] ++ (h.toBytes ++ behind)) :=
              .fault (i := 0) rfl (Nat.pos_of_ne_zero hzero) hcheck
            simpa using hfault
        | ok _ =>
            have hgood : h = Header.ofSequence (UInt16.ofNat k) := Header.check_eq_ok_iff.1 hcheck
            subst hgood
            -- One block is behind the header; what is left after it is shorter.
            rw [List.length_append, Header.length_toBytes] at hsize
            have hthere : min left laterRoom ≤ behind.length := by
              simp only [laterRoom, packetSize, headerSize] at hsize ⊢
              omega
            rcases Bytes.exists_front hthere with ⟨block, unread, hblock, rfl⟩
            have hshorter : left - laterRoom < left := by
              simp only [laterRoom, packetSize, headerSize]
              omega
            have hlater : left - laterRoom + (left - laterRoom + laterRoom - 1) / laterRoom
                * headerSize ≤ unread.length := by
              rw [List.length_append, hblock] at hsize
              simp only [laterRoom, packetSize, headerSize] at hsize ⊢
              omega
            exact LaterReading.block hzero hblock (ih _ hshorter (k + 1) hlater)

/-! ## The first packet -/

theorem readMessage_of_short {size : Nat} (h : size < firstHeaderSize) :
    readMessage size = pure .incomplete := by
  rw [readMessage, if_pos h]

theorem readMessage_firstFault {size : Nat} {h : Header} {e : FramingError}
    (hsize : firstHeaderSize ≤ size) (hcheck : h.check 0 = .error e) :
    readMessage size (h.toBytes ++ rest) = .error e rest := by
  rw [readMessage, if_neg (Nat.not_lt.2 hsize)]
  exact bind_error (expectHeader_of_fault rest hcheck)

/-- The declared length is read; what is done with it is the same on every such buffer. -/
theorem readMessage_opening {size length : Nat} (hsize : firstHeaderSize ≤ size)
    (hfits : length ≤ maxMessage) (rest : Bytes) :
    readMessage size (opening length ++ rest) =
      (if size < framedLength length then pure Assembly.incomplete
      else do
        let block ← (Reader.take (min length firstRoom)).orElseFail FramingError.truncated
        return Assembly.complete (block ++ (← readLater 1 (length - firstRoom)))) rest := by
  -- A length that can be declared is not changed by the two bytes that declare it.
  have hword : (UInt16.ofNat length).toNat = length := by
    rw [UInt16.toNat_ofNat']
    rw [maxMessage] at hfits
    omega
  have hlength : (Reader.uint16.orElseFail FramingError.truncated)
      (Bytes.bigEndian 2 length ++ rest) = .ok (UInt16.ofNat length) rest := by
    have hread := Reader.uint16_append rest (UInt16.ofNat length)
    rw [hword] at hread
    exact adaptExcept_ok hread
  rw [readMessage, if_neg (Nat.not_lt.2 hsize), opening, List.append_assoc,
    bind_ok (expectHeader_ofSequence _ _), bind_ok hlength, hword]

theorem readMessage_waiting {size length : Nat} (hsize : firstHeaderSize ≤ size)
    (hfits : length ≤ maxMessage) (hcut : size < framedLength length) (rest : Bytes) :
    readMessage size (opening length ++ rest) = .ok .incomplete rest := by
  rw [readMessage_opening hsize hfits, if_pos hcut]
  rfl

/-- Once all bytes are there, the first block is read, and then the later packets. -/
theorem readMessage_block {size length : Nat} {block : Bytes} (hfits : length ≤ maxMessage)
    (hsize : framedLength length ≤ size) (hblock : block.length = min length firstRoom)
    (rest : Bytes) :
    readMessage size (opening length ++ (block ++ rest)) =
      (do return Assembly.complete (block ++ (← readLater 1 (length - firstRoom)))) rest := by
  have hheader : firstHeaderSize ≤ size := Nat.le_trans (firstHeaderSize_le length) hsize
  have htake : ((Reader.take (min length firstRoom)).orElseFail FramingError.truncated)
      (block ++ rest) = .ok block rest :=
    adaptExcept_ok (Reader.take_of_length rest hblock)
  rw [readMessage_opening hheader hfits, if_neg (Nat.not_lt.2 hsize), bind_ok htake]

/-- A message is read from its wire form, and nothing behind it is. -/
theorem readMessage_wire {m : Bytes} (hfits : m.length ≤ maxMessage) (rest : Bytes) :
    readMessage (wire m ++ rest).length (wire m ++ rest) = .ok (.complete m) rest := by
  have hsize : framedLength m.length ≤ (wire m ++ rest).length := by
    rw [List.length_append, length_wire]
    exact Nat.le_add_right _ _
  have hblock : (m.take firstRoom).length = min m.length firstRoom := by
    rw [List.length_take, Nat.min_comm]
  have hlater : readLater 1 (m.length - firstRoom) (laterWire 1 (m.drop firstRoom) ++ rest)
      = .ok (m.drop firstRoom) rest := by
    rw [← List.length_drop]
    exact readLater_laterWire 1 (m.drop firstRoom) rest
  have hread := readMessage_block hfits hsize hblock (laterWire 1 (m.drop firstRoom) ++ rest)
  rw [bind_ok hlater, List.take_append_drop] at hread
  rw [wire_eq] at hread ⊢
  simp only [List.append_assoc] at hread ⊢
  exact hread

/-! ## The relation and the reader -/

theorem assemble_of_ok {unread : Bytes} {result : Assembly}
    (h : readMessage raw.length raw = .ok result unread) : assemble raw = .ok result := by
  rw [assemble, h]

theorem assemble_of_error {unread : Bytes} {e : FramingError}
    (h : readMessage raw.length raw = .error e unread) : assemble raw = .error e := by
  rw [assemble, h]

/-- The reader comes to what the buffer amounts to. -/
theorem Reading.assemble_eq (h : Reading raw outcome) : assemble raw = outcome := by
  cases h with
  | short hsize =>
      have hread : readMessage raw.length raw = .ok .incomplete raw := by
        rw [readMessage_of_short hsize]
        rfl
      exact assemble_of_ok hread
  | @firstFault h rest e hsize hcheck =>
      have hheader : firstHeaderSize ≤ (h.toBytes ++ rest).length := by
        rw [List.length_append, Header.length_toBytes, firstHeaderSize]
        omega
      exact assemble_of_error (readMessage_firstFault hheader hcheck)
  | @waiting length rest hfits hsize =>
      have hheader : firstHeaderSize ≤ (opening length ++ rest).length := by
        rw [List.length_append, length_opening]
        exact Nat.le_add_right _ _
      exact assemble_of_ok (readMessage_waiting hheader hfits hsize rest)
  | @laterFault length i first data rest h e hfits hfirst hdata hmore hcheck hsize =>
      have hblock : first.length = min length firstRoom := by omega
      have hleft : data.length < length - firstRoom := by omega
      have hnumber : 1 + i = i + 1 := Nat.add_comm 1 i
      have hlater : readLater 1 (length - firstRoom) (laterWire 1 data ++ (h.toBytes ++ rest))
          = .error e rest :=
        readLater_fault (k := 1) hdata hleft (by rw [hnumber]; exact hcheck)
      have hread := readMessage_block hfits hsize hblock (laterWire 1 data ++ (h.toBytes ++ rest))
      rw [bind_error hlater] at hread
      exact assemble_of_error hread
  | whole hfits =>
      exact assemble_of_ok (readMessage_wire hfits _)

/-- A buffer with a right first header and a declared length. -/
theorem exists_reading_opening {length : Nat} (hfits : length ≤ maxMessage) (unread : Bytes) :
    ∃ outcome, Reading (opening length ++ unread) outcome := by
  by_cases hcut : (opening length ++ unread).length < framedLength length
  · exact ⟨_, Reading.waiting hfits hcut⟩
  · have hsize : framedLength length ≤ (opening length ++ unread).length := Nat.not_lt.1 hcut
    have hbytes := hsize
    rw [List.length_append, length_opening, framedLength_eq] at hbytes
    -- The first packet holds one block; the data behind it is in later packets.
    have hthere : min length firstRoom ≤ unread.length := by omega
    rcases Bytes.exists_front hthere with ⟨block, later, hblock, rfl⟩
    have hlater : length - firstRoom + (length - firstRoom + laterRoom - 1) / laterRoom * headerSize
        ≤ later.length := by
      rw [List.length_append] at hbytes
      omega
    cases laterReading_of_length 1 (length - firstRoom) hlater with
    | @whole data rest hdata =>
        have hle : block.length ≤ firstRoom := by omega
        have hfull : data ≠ [] → block.length = firstRoom := by
          intro hne
          have hpos : 0 < data.length := List.length_pos_iff.2 hne
          omega
        have hlength : (block ++ data).length = length := by
          rw [List.length_append]
          omega
        subst hlength
        have hwhole : Reading (wire (block ++ data) ++ rest) (.ok (.complete (block ++ data))) :=
          Reading.whole hfits
        refine ⟨.ok (.complete (block ++ data)), ?_⟩
        simpa only [wire_append hle hfull, List.append_assoc] using hwhole
    | @fault i data rest h e hdata hmore hcheck =>
        have hfirst : block.length = firstRoom := by omega
        have hcheck' : h.check (UInt16.ofNat (i + 1)) = .error e := by
          simpa only [Nat.add_comm 1 i] using hcheck
        exact ⟨_, Reading.laterFault hfits hfirst hdata (by omega) hcheck' hsize⟩

/-- Every buffer is of one of the five forms. -/
theorem exists_reading (raw : Bytes) : ∃ outcome, Reading raw outcome := by
  by_cases hshort : raw.length < firstHeaderSize
  · exact ⟨_, Reading.short hshort⟩
  · have hheader : headerSize ≤ raw.length := by
      rw [firstHeaderSize] at hshort
      omega
    rcases exists_header hheader with ⟨h, behind, rfl⟩
    have hsize : 2 ≤ behind.length := by
      rw [List.length_append, Header.length_toBytes, firstHeaderSize] at hshort
      omega
    cases hcheck : h.check 0 with
    | error e => exact ⟨_, Reading.firstFault hsize hcheck⟩
    | ok _ =>
        have hgood : h = Header.ofSequence 0 := Header.check_eq_ok_iff.1 hcheck
        subst hgood
        rcases Bytes.exists_word hsize with ⟨word, unread, rfl⟩
        -- Two bytes cannot declare more than a message may have.
        have hfits : word.toNat ≤ maxMessage := Nat.le_of_lt_succ word.toNat_lt
        rw [← List.append_assoc]
        exact exists_reading_opening hfits unread

/-- Reading a buffer finds out what it amounts to. -/
theorem reading_assemble (raw : Bytes) : Reading raw (assemble raw) := by
  rcases exists_reading raw with ⟨outcome, h⟩
  rw [h.assemble_eq]
  exact h

/-- A packet in the middle of a message does not start one. -/
theorem assemble_later {p : Packet} (h : p.sequence ≠ 0) : ∃ e, assemble p.toBytes = .error e := by
  have hbody : 2 ≤ (p.body ++ List.replicate (laterRoom - p.body.length) 0).length := by
    simp only [List.length_append, List.length_replicate, laterRoom, packetSize, headerSize]
    omega
  cases hcheck : (Header.ofSequence p.sequence).check 0 with
  | ok =>
      rw [Header.check_eq_ok_iff] at hcheck
      exact absurd (congrArg Header.sequence hcheck) h
  | error e =>
      refine ⟨e, ?_⟩
      rw [Packet.toBytes, List.append_assoc]
      exact (Reading.firstFault hbody hcheck).assemble_eq

theorem assemble_eq_iff : assemble raw = outcome ↔ Reading raw outcome := by
  constructor
  · intro h
    rw [← h]
    exact reading_assemble raw
  · exact Reading.assemble_eq

end Frame

end TokenAgent
