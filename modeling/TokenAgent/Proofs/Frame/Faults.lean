import TokenAgent.Proofs.Frame.Reading

/-!
# Faults of packets

Which packet is to blame when bytes do not assemble, told by the bytes alone.  Packet `k` starts
at byte `64 * k` (`Frame.HeaderAt`), and its header is checked once enough bytes are there
(`Frame.Due`): for the first packet its own header and the declared length, for the later ones the
whole message.

* `Frame.Due.headerAt` — a header that is checked is there, and its number fits its word;
* `Frame.LowestFault` — a packet is at fault, and none before it is;
* `Frame.assemble_eq_error_iff` — assembling fails exactly with the lowest fault.
-/

namespace TokenAgent

namespace Frame

variable {raw rest later : Bytes} {h h' : Header} {e e' : FramingError} {j k length : Nat}

/-! ## Headers and their faults -/

/-- The header of packet `k`. -/
def Header.IsFor (h : Header) (k : Nat) : Prop :=
  h.channel = Frame.channel ∧ h.tag = Frame.tag ∧ h.sequence.toNat = k

/-- What is wrong with a header where that of packet `k` has to stand: its leftmost field that
is wrong, with the value that was found. -/
inductive Header.Fault (h : Header) (k : Nat) : FramingError → Prop where
  | channel (hchannel : h.channel ≠ Frame.channel) : Fault h k (.channelMismatch h.channel)
  | tag (hchannel : h.channel = Frame.channel) (htag : h.tag ≠ Frame.tag) :
      Fault h k (.tagMismatch h.tag)
  | sequence {expected : UInt16} (hchannel : h.channel = Frame.channel) (htag : h.tag = Frame.tag)
      (hsequence : h.sequence.toNat ≠ k) (hexpected : expected.toNat = k) :
      Fault h k (.sequenceMismatch expected h.sequence)

theorem Header.fault_of_check {number : UInt16} (hcheck : h.check number = .error e) :
    h.Fault number.toNat e := by
  rw [check] at hcheck
  by_cases hchannel : h.channel = Frame.channel
  · rw [if_neg (not_not.2 hchannel)] at hcheck
    by_cases htag : h.tag = Frame.tag
    · rw [if_neg (not_not.2 htag)] at hcheck
      by_cases hsequence : h.sequence = number
      · rw [if_neg (not_not.2 hsequence)] at hcheck
        cases hcheck
      · rw [if_pos hsequence] at hcheck
        cases hcheck
        refine .sequence hchannel htag ?_ rfl
        rwa [ne_eq, UInt16.toNat_inj]
    · rw [if_pos htag] at hcheck
      cases hcheck
      exact .tag hchannel htag
  · rw [if_pos hchannel] at hcheck
    cases hcheck
    exact .channel hchannel

theorem Header.isFor_ofSequence (hsmall : k < 2 ^ 16) : (ofSequence (UInt16.ofNat k)).IsFor k :=
  ⟨rfl, rfl, UInt16.toNat_ofNat_of_lt' hsmall⟩

theorem Header.Fault.not_isFor (hfault : h.Fault k e) : ¬ h.IsFor k := by
  rintro ⟨hchannel, htag, hsequence⟩
  cases hfault with
  | channel hwrong => exact hwrong hchannel
  | tag _ hwrong => exact hwrong htag
  | sequence _ _ hwrong _ => exact hwrong hsequence

theorem Header.Fault.unique (hfault : h.Fault k e) (hfault' : h.Fault k e') : e = e' := by
  cases hfault with
  | channel hchannel =>
      cases hfault' with
      | channel _ => rfl
      | tag hgood _ => exact absurd hgood hchannel
      | sequence hgood _ _ _ => exact absurd hgood hchannel
  | tag hchannel htag =>
      cases hfault' with
      | channel hwrong => exact absurd hchannel hwrong
      | tag _ _ => rfl
      | sequence _ hgood _ _ => exact absurd hgood htag
  | sequence hchannel htag _ hexpected =>
      cases hfault' with
      | channel hwrong => exact absurd hchannel hwrong
      | tag _ hwrong => exact absurd htag hwrong
      | sequence _ _ _ hexpected' =>
          have hnumber := UInt16.toNat_inj.1 (hexpected.trans hexpected'.symm)
          rw [hnumber]

/-! ## Places of headers -/

/-- Packet `k` starts at byte `64 * k`, with this header. -/
def HeaderAt (raw : Bytes) (k : Nat) (h : Header) : Prop :=
  h.toBytes <+: raw.drop (packetSize * k)

/-- The length that stands behind the header of the first packet. -/
def declaredLength (raw : Bytes) : Nat :=
  Bytes.ofBigEndian ((raw.drop headerSize).take 2)

/-- The header of packet `k` is checked.  That of the first packet waits for the declared length
only, those of the others wait for the whole message. -/
inductive Due (raw : Bytes) : Nat → Prop where
  | first (hsize : firstHeaderSize ≤ raw.length) : Due raw 0
  | later {k : Nat} (hwhole : framedLength (declaredLength raw) ≤ raw.length) (hpos : 1 ≤ k)
      (hcount : k ≤ (declaredLength raw - firstRoom + (laterRoom - 1)) / laterRoom) : Due raw k

theorem HeaderAt.unique (hat : HeaderAt raw k h) (hat' : HeaderAt raw k h') : h = h' := by
  have hbytes : h.toBytes = h'.toBytes := by
    refine (List.prefix_of_prefix_length_le hat hat' ?_).eq_of_length ?_
    · simp
    · simp
  have hread := Header.read_append [] h
  rw [hbytes, Header.read_append] at hread
  injection hread with hsame _
  exact hsame.symm

theorem declaredLength_le (raw : Bytes) : declaredLength raw ≤ maxMessage := by
  have hbound := Bytes.ofBigEndian_lt ((raw.drop headerSize).take 2)
  have htwo : ((raw.drop headerSize).take 2).length ≤ 2 := List.length_take_le 2 _
  have hpow : 256 ^ ((raw.drop headerSize).take 2).length ≤ 256 ^ 2 :=
    Nat.pow_le_pow_right (by decide) htwo
  exact Nat.le_of_lt_succ (Nat.lt_of_lt_of_le hbound hpow)

theorem declaredLength_opening (hfits : length ≤ maxMessage) (rest : Bytes) :
    declaredLength (opening length ++ rest) = length := by
  have hword : (((opening length ++ rest).drop headerSize).take 2) = Bytes.bigEndian 2 length := by
    rw [opening, List.append_assoc, List.drop_left' (Header.length_toBytes _)]
    exact List.take_left' (Bytes.length_bigEndian 2 length)
  rw [declaredLength, hword]
  exact Bytes.ofBigEndian_bigEndian (Nat.lt_succ_of_le hfits)

theorem Due.size_le (hdue : Due raw k) : firstHeaderSize ≤ raw.length := by
  cases hdue with
  | first hsize => exact hsize
  | later hwhole _ _ => exact (firstHeaderSize_le _).trans hwhole

/-- A header that is checked is there, and there are not more packets than their numbers can
tell apart. -/
theorem Due.headerAt (hdue : Due raw k) : k ≤ 1110 ∧ ∃ h, HeaderAt raw k h := by
  have hinside : k ≤ 1110 ∧ packetSize * k + headerSize ≤ raw.length := by
    cases hdue with
    | first hsize =>
        simp only [firstHeaderSize, headerSize] at hsize ⊢
        omega
    | later hwhole hpos hcount =>
        -- Every packet but the last is full, and the last holds something.
        have hfits := declaredLength_le raw
        rw [framedLength_eq] at hwhole
        simp only [maxMessage, firstHeaderSize, firstRoom, laterRoom, packetSize, headerSize]
          at hfits hcount hwhole ⊢
        omega
  refine ⟨hinside.1, ?_⟩
  have hthere : headerSize ≤ (raw.drop (packetSize * k)).length := by
    rw [List.length_drop]
    omega
  rcases exists_header hthere with ⟨h, rest, hdrop⟩
  exact ⟨h, rest, hdrop.symm⟩

/-! ## Headers in wire forms -/

theorem headerAt_zero (h : Header) (rest : Bytes) : HeaderAt (h.toBytes ++ rest) 0 h :=
  List.prefix_append _ _

/-- Behind a first packet that is full, packets start every 64 bytes. -/
theorem headerAt_succ {first : Bytes} (hfirst : first.length = firstRoom) :
    HeaderAt (opening length ++ (first ++ later)) (k + 1) h
      ↔ h.toBytes <+: later.drop (packetSize * k) := by
  have hsize : packetSize * (k + 1) = (opening length ++ first).length + packetSize * k := by
    rw [List.length_append, length_opening, hfirst, Nat.mul_succ, Nat.add_comm]
    rfl
  rw [HeaderAt, ← List.append_assoc, hsize, ← List.drop_drop, List.drop_left]

theorem laterWire_header {data : Bytes} (hinside : laterRoom * j < data.length) (k : Nat)
    (rest : Bytes) : (Header.ofSequence (UInt16.ofNat (k + j))).toBytes
      <+: (laterWire k data ++ rest).drop (packetSize * j) := by
  have hne : data ≠ [] := by
    rintro rfl
    exact absurd hinside (Nat.not_lt_zero _)
  rw [laterWire_of_ne_nil k hne]
  -- A full packet stands in front of each but the first.
  induction j generalizing k data with
  | zero =>
      rw [List.append_assoc]
      exact List.prefix_append _ _
  | succ j ih =>
      rw [Nat.mul_succ] at hinside
      have hrest : laterRoom * j < (data.drop laterRoom).length := by
        rw [List.length_drop]
        omega
      have hmore : data.drop laterRoom ≠ [] := by
        intro hnil
        rw [hnil] at hrest
        exact absurd hrest (Nat.not_lt_zero _)
      have hpacket : ((Header.ofSequence (UInt16.ofNat k)).toBytes ++ data.take laterRoom).length
          = packetSize := by
        rw [List.length_append, Header.length_toBytes, List.length_take_of_le (by omega)]
        rfl
      have hnumber : k + (j + 1) = k + 1 + j := by omega
      have hsize : packetSize * (j + 1) = packetSize + packetSize * j := by
        rw [Nat.mul_succ, Nat.add_comm]
      rw [hnumber, hsize, ← List.append_assoc, List.append_assoc, ← List.drop_drop,
        List.drop_left' hpacket, laterWire_of_ne_nil (k + 1) hmore]
      exact ih hrest (k + 1) hmore

/-! ## The lowest fault -/

/-- Packet `k` is at fault, and no packet before it is. -/
structure LowestFault (raw : Bytes) (k : Nat) (h : Header) (e : FramingError) : Prop where
  due : Due raw k
  header : HeaderAt raw k h
  fault : h.Fault k e
  before : ∀ j < k, ∃ h', HeaderAt raw j h' ∧ h'.IsFor j

theorem LowestFault.not_isFor (hlowest : LowestFault raw k h e) :
    ¬ ∃ h', HeaderAt raw k h' ∧ h'.IsFor k := by
  rintro ⟨h', hat, hgood⟩
  rw [← hlowest.header.unique hat] at hgood
  exact hlowest.fault.not_isFor hgood

theorem LowestFault.unique (hlowest : LowestFault raw k h e) (hlowest' : LowestFault raw j h' e') :
    e = e' := by
  -- The lower of two packets at fault would be right.
  rcases Nat.lt_trichotomy k j with hlt | rfl | hgt
  · exact absurd (hlowest'.before k hlt) hlowest.not_isFor
  · have hheader := hlowest.header.unique hlowest'.header
    subst hheader
    exact hlowest.fault.unique hlowest'.fault
  · exact absurd (hlowest.before j hgt) hlowest'.not_isFor

theorem exists_lowestFault (hreading : Reading raw (.error e)) :
    ∃ k h, LowestFault raw k h e := by
  cases hreading with
  | @firstFault h rest _ hsize hcheck =>
      refine ⟨0, h, .first ?_, headerAt_zero h rest, Header.fault_of_check hcheck, ?_⟩
      · rw [List.length_append, Header.length_toBytes, firstHeaderSize]
        omega
      · intro j hj
        exact absurd hj (Nat.not_lt_zero j)
  | @laterFault length i first data rest h _ hfits hfirst hdata hmore hcheck hsize =>
      have hdeclared := declaredLength_opening hfits
        (first ++ (laterWire 1 data ++ (h.toBytes ++ rest)))
      have hdue : Due (opening length ++ (first ++ (laterWire 1 data ++ (h.toBytes ++ rest))))
          (i + 1) := by
        refine .later ?_ (Nat.succ_pos i) ?_
        · rw [hdeclared]
          exact hsize
        · rw [hdeclared]
          simp only [firstRoom, firstHeaderSize, laterRoom, packetSize, headerSize]
            at hfirst hdata ⊢
          omega
      have hsmall : i + 1 < 2 ^ 16 := Nat.lt_of_le_of_lt hdue.headerAt.1 (by decide)
      have hbehind : (laterWire 1 data).length = packetSize * i := by
        rw [length_laterWire, hdata]
        simp only [laterRoom, packetSize, headerSize]
        omega
      refine ⟨i + 1, h, hdue, ?_, ?_, ?_⟩
      · rw [headerAt_succ hfirst, List.drop_left' hbehind]
        exact List.prefix_append _ _
      · have hfault := Header.fault_of_check hcheck
        rwa [UInt16.toNat_ofNat_of_lt' hsmall] at hfault
      · intro j hj
        cases j with
        | zero =>
            refine ⟨Header.ofSequence 0, ?_, Header.isFor_ofSequence (by decide)⟩
            rw [opening, List.append_assoc]
            exact headerAt_zero _ _
        | succ j =>
            have hbefore : laterRoom * j < data.length := by
              rw [hdata]
              exact Nat.mul_lt_mul_of_pos_left (Nat.lt_of_succ_lt_succ hj) (by decide)
            refine ⟨_, ?_, Header.isFor_ofSequence (hj.trans hsmall)⟩
            rw [headerAt_succ hfirst, Nat.add_comm j 1]
            exact laterWire_header hbefore 1 _

/-- Where nothing is at fault, every header that is checked is the one of its place. -/
theorem headers_of_reading {result : Assembly} (hreading : Reading raw (.ok result))
    (hdue : Due raw k) : ∃ h, HeaderAt raw k h ∧ h.IsFor k := by
  cases hreading with
  | short hsize => exact absurd hdue.size_le (Nat.not_le.2 hsize)
  | @waiting length rest hfits hsize =>
      cases hdue with
      | first _ =>
          refine ⟨Header.ofSequence 0, ?_, Header.isFor_ofSequence (by decide)⟩
          rw [opening, List.append_assoc]
          exact headerAt_zero _ _
      | later hwhole _ _ =>
          rw [declaredLength_opening hfits] at hwhole
          exact absurd hwhole (Nat.not_le.2 hsize)
  | @whole message rest hfits =>
      have hdeclared : declaredLength (wire message ++ rest) = message.length := by
        rw [wire_eq, List.append_assoc]
        exact declaredLength_opening hfits _
      have hcount : k < (packets message).length := by
        rw [length_packets]
        cases hdue with
        | first _ => exact Nat.add_pos_left Nat.one_pos _
        | later _ _ hcount =>
            rw [hdeclared] at hcount
            exact Nat.lt_one_add_iff.2 hcount
      have hsmall : k < 2 ^ 16 := Nat.lt_of_le_of_lt hdue.headerAt.1 (by decide)
      refine ⟨_, ?_, Header.isFor_ofSequence hsmall⟩
      rw [HeaderAt, ← header_at hcount, List.drop_append_of_le_length]
      · exact (List.take_prefix _ _).trans (List.prefix_append _ _)
      · have hinside := header_end_le hcount
        rw [length_wire]
        omega

theorem assemble_eq_error_iff_lowestFault :
    assemble raw = .error e ↔ ∃ k h, LowestFault raw k h e := by
  have hreading := reading_assemble raw
  constructor
  · intro herror
    rw [herror] at hreading
    exact exists_lowestFault hreading
  · rintro ⟨k, h, hlowest⟩
    cases hassemble : assemble raw with
    | ok result =>
        rw [hassemble] at hreading
        exact absurd (headers_of_reading hreading hlowest.due) hlowest.not_isFor
    | error e' =>
        rw [hassemble] at hreading
        rcases exists_lowestFault hreading with ⟨k', h', hlowest'⟩
        rw [hlowest.unique hlowest']

/-- A header that is checked and is not the one of its place is a fault. -/
theorem exists_error_of_due (hdue : Due raw k) (hat : HeaderAt raw k h) (hwrong : ¬ h.IsFor k) :
    ∃ e, assemble raw = .error e := by
  cases hassemble : assemble raw with
  | error e => exact ⟨e, rfl⟩
  | ok result =>
      rcases headers_of_reading (assemble_eq_iff.1 hassemble) hdue with ⟨h', hat', hgood⟩
      rw [← hat.unique hat'] at hgood
      exact absurd hgood hwrong

/-- Assembling fails if and only if a header that is there to be checked is wrong: that of the
first packet, or, once all bytes that the declared length calls for are there, that of a later
one.  It fails with the fault of the lowest such packet, and with nothing else: no read is cut
short, and the numbers of packets do not come back to zero. -/
theorem assemble_eq_error_iff (raw : Bytes) :
    ((∃ e, assemble raw = .error e) ↔
      (7 ≤ raw.length ∧ ∃ h, HeaderAt raw 0 h ∧ ¬ h.IsFor 0) ∨
      (framedLength (declaredLength raw) ≤ raw.length ∧
        ∃ k h, 1 ≤ k ∧ k ≤ (declaredLength raw - 57 + 58) / 59 ∧ HeaderAt raw k h ∧ ¬ h.IsFor k)) ∧
    (∀ e, assemble raw = .error e ↔ ∃ k h, LowestFault raw k h e) ∧
    (∀ e, assemble raw = .error e →
      (∀ missing, e ≠ .truncated missing) ∧ (∀ length, e ≠ .tooLarge length) ∧
        ∀ length, e ≠ .missingStatus length) ∧
    ∀ k, Due raw k → k < 2 ^ 16 ∧ ∃ h, HeaderAt raw k h := by
  refine ⟨?_, fun e => assemble_eq_error_iff_lowestFault, ?_, ?_⟩
  · constructor
    · rintro ⟨e, herror⟩
      rcases assemble_eq_error_iff_lowestFault.1 herror with ⟨k, h, hdue, hat, hfault, _⟩
      cases hdue with
      | first hsize => exact Or.inl ⟨hsize, h, hat, hfault.not_isFor⟩
      | later hwhole hpos hcount =>
          exact Or.inr ⟨hwhole, k, h, hpos, hcount, hat, hfault.not_isFor⟩
    · rintro (⟨hsize, h, hat, hwrong⟩ | ⟨hwhole, k, h, hpos, hcount, hat, hwrong⟩)
      · exact exists_error_of_due (.first hsize) hat hwrong
      · exact exists_error_of_due (.later hwhole hpos hcount) hat hwrong
  · intro e herror
    rcases assemble_eq_error_iff_lowestFault.1 herror with ⟨k, h, _, _, hfault, _⟩
    cases hfault with
    | channel _ => simp
    | tag _ _ => simp
    | sequence _ _ _ _ => simp
  · intro k hdue
    rcases hdue.headerAt with ⟨hbound, hthere⟩
    exact ⟨Nat.lt_of_le_of_lt hbound (by decide), hthere⟩

end Frame

end TokenAgent
