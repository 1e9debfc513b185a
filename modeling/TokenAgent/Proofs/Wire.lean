import TokenAgent.Proofs.Reader
import TokenAgent.Wire.Field

/-!
# Data under its own length

A field is read back from the front of any buffer, and only a buffer that begins with the written
form of a field can be read as one (`Reader.field_eq_ok_iff`).  What is read back one by one is
read back in any number (`Reader.counted_append`), and so are fields (`Reader.fields_append`).

A block is delimited if its first four bytes spell the number of the bytes behind them.  Such
blocks need no marks between them: what is written one after the other can be cut again in one
way only (`Wire.Split.unique`).
-/

namespace TokenAgent

/-! ## Fields -/

namespace Reader

open Running

variable {data unread rest : Bytes}

/-- A declared length, and as many bytes as it says. -/
theorem field_bigEndian {n : Nat} (h : n < 2 ^ 32) (rest : Bytes) :
    field (Bytes.bigEndian 4 n ++ rest) = take n rest := by
  have hcount : (UInt32.ofNat n).toNat = n := UInt32.toNat_ofNat_of_lt' h
  rw [field, bind_ok (uint32_bigEndian rest h), hcount]

/-- What can be read as a field begins with the written form of the field. -/
theorem field_eq_ok_iff :
    field unread = .ok data rest ↔ data.length < 2 ^ 32 ∧ unread = Wire.field data ++ rest := by
  constructor
  · intro h
    by_cases hlength : 4 ≤ unread.length
    · rcases Bytes.exists_bigEndian hlength with ⟨n, body, hn, rfl⟩
      rw [field_bigEndian hn, take_eq_ok_iff] at h
      rcases h with ⟨rfl, rfl⟩
      refine ⟨hn, ?_⟩
      rw [Wire.field, List.append_assoc]
    · -- Not even the length is there.
      have hshort := uint32_of_short (Nat.lt_of_not_le hlength)
      rw [field, bind_error hshort] at h
      cases h
  · rintro ⟨hfits, rfl⟩
    rw [Wire.field, List.append_assoc, field_bigEndian hfits]
    exact take_append data rest

/-- A number of values of one kind, one after the other. -/
def counted {α : Type} (item : Reader α) : (count : Nat) → Reader (List α)
  | 0 => return []
  | count + 1 => do
      let first ← item
      let others ← counted item count
      return first :: others

/-- Values that are read back one by one are read back together. -/
theorem counted_append {α : Type} {item : Reader α} {write : α → Bytes} {values : List α}
    (h : ∀ value ∈ values, ∀ rest, item (write value ++ rest) = .ok value rest) (rest : Bytes) :
    counted item values.length (values.flatMap write ++ rest) = .ok values rest := by
  induction values with
  | nil => rfl
  | cons first others ih =>
      have hfirst := h first List.mem_cons_self (others.flatMap write ++ rest)
      have hothers := ih fun value hmem => h value (List.mem_cons_of_mem first hmem)
      rw [List.flatMap_cons, List.append_assoc, List.length_cons, counted, bind_ok hfirst,
        bind_ok hothers]
      rfl

/-- Several fields, one after the other. -/
def fields : (count : Nat) → Reader (List Bytes)
  | 0 => return []
  | count + 1 => do
      let data ← field
      let others ← fields count
      return data :: others

theorem fields_eq_counted (count : Nat) : fields count = counted field count := by
  induction count with
  | zero => rfl
  | succ count ih => rw [fields, counted, ih]

theorem fields_append {items : List Bytes} (h : ∀ item ∈ items, item.length < 2 ^ 32)
    (rest : Bytes) : fields items.length (Wire.fields items ++ rest) = .ok items rest := by
  rw [fields_eq_counted]
  refine counted_append ?_ rest
  intro item hmem rest
  exact field_eq_ok_iff.2 ⟨h item hmem, rfl⟩

theorem fields_two {first second : Bytes} (hfirst : first.length < 2 ^ 32)
    (hsecond : second.length < 2 ^ 32) (rest : Bytes) :
    fields 2 (Wire.fields [first, second] ++ rest) = .ok [first, second] rest := by
  have hshort : ∀ item ∈ [first, second], item.length < 2 ^ 32 := by
    simpa using And.intro hfirst hsecond
  exact fields_append hshort rest

end Reader

/-! ## Delimited blocks -/

namespace Wire

theorem drop_envelope (body : Bytes) : (envelope body).drop 4 = body :=
  List.drop_left' (Bytes.length_bigEndian 4 body.length)

/-- The first four bytes of a block are the length of the rest of it. -/
def Delimited (block : Bytes) : Prop :=
  4 ≤ block.length ∧ Bytes.ofBigEndian (block.take 4) = block.length - 4

theorem delimited_envelope {body : Bytes} (h : body.length < 2 ^ 32) :
    Delimited (envelope body) := by
  have hfront : (envelope body).take 4 = Bytes.bigEndian 4 body.length :=
    List.take_left' (Bytes.length_bigEndian 4 _)
  have hlength : (envelope body).length = 4 + body.length := length_field body
  refine ⟨?_, ?_⟩
  · rw [hlength]
    exact Nat.le_add_right 4 _
  · rw [hfront, Bytes.ofBigEndian_bigEndian h, hlength, Nat.add_sub_cancel_left]

/-- Two delimited blocks at the front of one buffer are the same. -/
theorem Delimited.append_inj {x y s t : Bytes} (hx : Delimited x) (hy : Delimited y)
    (h : x ++ s = y ++ t) : x = y ∧ s = t := by
  -- The declared lengths stand at the same place, so they agree.
  have hfront : x.take 4 = y.take 4 := by
    have htake : (x ++ s).take 4 = (y ++ t).take 4 := by
      rw [h]
    simpa only [List.take_append_of_le_length hx.1, List.take_append_of_le_length hy.1] using htake
  have hlength : x.length = y.length := by
    have hdeclared : x.length - 4 = y.length - 4 := by
      rw [← hx.2, ← hy.2, hfront]
    have hxlong := hx.1
    have hylong := hy.1
    omega
  exact List.append_inj h hlength

/-- A stream cut into blocks of a kind, and a rest that begins with no further one. -/
structure Split (P : Bytes → Prop) (stream : Bytes) (blocks : List Bytes) (rest : Bytes) :
    Prop where
  whole : stream = blocks.flatten ++ rest
  each : ∀ block ∈ blocks, P block
  ended : ∀ block, P block → ¬ block <+: rest

namespace Split

variable {P : Bytes → Prop} {stream rest rest' : Bytes} {blocks blocks' : List Bytes}

theorem cons {block : Bytes} (hblock : P block) (h : Split P stream blocks rest) :
    Split P (block ++ stream) (block :: blocks) rest where
  whole := by
    rw [List.flatten_cons, List.append_assoc, ← h.whole]
  each := by
    intro b hmem
    rcases List.mem_cons.1 hmem with rfl | hlater
    · exact hblock
    · exact h.each b hlater
  ended := h.ended

/-- A stream is cut into delimited blocks in one way only. -/
theorem unique (hP : ∀ block, P block → Delimited block) (h : Split P stream blocks rest)
    (h' : Split P stream blocks' rest') : blocks = blocks' ∧ rest = rest' := by
  rcases h with ⟨rfl, heach, hover⟩
  rcases h' with ⟨hwhole, heach', hover'⟩
  induction blocks generalizing blocks' with
  | nil =>
      cases blocks' with
      | nil =>
          refine ⟨rfl, ?_⟩
          simpa using hwhole
      | cons y ys =>
          -- The rest of one cutting would begin with a block of the other.
          refine absurd ?_ (hover y (heach' y List.mem_cons_self))
          refine ⟨ys.flatten ++ rest', ?_⟩
          simpa using hwhole.symm
  | cons x xs ih =>
      have hx : P x := heach x List.mem_cons_self
      cases blocks' with
      | nil =>
          refine absurd ?_ (hover' x hx)
          refine ⟨xs.flatten ++ rest, ?_⟩
          simpa using hwhole
      | cons y ys =>
          have hy : P y := heach' y List.mem_cons_self
          have hfirst : x ++ (xs.flatten ++ rest) = y ++ (ys.flatten ++ rest') := by
            simpa using hwhole
          rcases (hP x hx).append_inj (hP y hy) hfirst with ⟨rfl, hlater⟩
          have hxs : ∀ block ∈ xs, P block := by
            intro block hmem
            exact heach block (List.mem_cons_of_mem x hmem)
          have hys : ∀ block ∈ ys, P block := by
            intro block hmem
            exact heach' block (List.mem_cons_of_mem x hmem)
          rcases ih hxs hlater hys with ⟨rfl, hrest⟩
          exact ⟨rfl, hrest⟩

end Split

end Wire

end TokenAgent
