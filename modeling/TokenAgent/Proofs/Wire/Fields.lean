import TokenAgent.Proofs.Wire

/-!
# Fields one after the other

Fields need no marks between them.  Reading a number of them succeeds on the written form of as
many fields, with anything behind it, and on nothing else; it fails at the first field that is
cut.  So what was read can be written again, and two lists of fields of one length cannot begin
the same buffer.

* `Reader.fields_eq_ok_iff`, `Reader.fields_eq_error_iff` — what is read, and where reading stops;
* `Wire.fields_append_inj` — the fields at the front of a buffer are told by their number;
* `Reader.fields_decode_uniquely` — both directions, and what follows from them.
-/

namespace TokenAgent

namespace Reader

open Running

variable {count : Nat} {items : List Bytes} {unread rest left : Bytes} {missing : Shortfall}

/-! ## What is read -/

/-- What can be read as fields begins with the written form of the fields. -/
theorem fields_eq_ok_iff :
    fields count unread = .ok items rest ↔
      items.length = count ∧ (∀ item ∈ items, item.length < 2 ^ 32) ∧
        unread = Wire.fields items ++ rest := by
  constructor
  · intro h
    induction count generalizing unread items with
    | zero =>
        cases h
        simp
    | succ count ih =>
        rcases exists_of_bind_ok h with ⟨data, behind, hdata, hbehind⟩
        rcases exists_of_bind_ok hbehind with ⟨others, rest', hothers, hpure⟩
        cases hpure
        rcases field_eq_ok_iff.1 hdata with ⟨hfits, rfl⟩
        rcases ih hothers with ⟨rfl, hshort, rfl⟩
        refine ⟨rfl, ?_, ?_⟩
        · simpa using ⟨hfits, hshort⟩
        · rw [Wire.fields_cons, List.append_assoc]
  · rintro ⟨rfl, hshort, rfl⟩
    exact fields_append hshort rest

/-! ## Where reading stops -/

theorem fields_of_cut {behind : Bytes} (hshort : ∀ item ∈ items, item.length < 2 ^ 32)
    (hcount : items.length < count) (hcut : field behind = .error missing left) :
    fields count (Wire.fields items ++ behind) = .error missing left := by
  induction items generalizing count with
  | nil =>
      cases count with
      | zero => exact absurd hcount (Nat.lt_irrefl 0)
      | succ count => exact bind_error hcut
  | cons data others ih =>
      cases count with
      | zero => exact absurd hcount (Nat.not_lt_zero _)
      | succ count =>
          have hdata : field (Wire.field data ++ (Wire.fields others ++ behind))
              = .ok data (Wire.fields others ++ behind) :=
            field_eq_ok_iff.2 ⟨hshort data List.mem_cons_self, rfl⟩
          have hothers := ih (fun item hmem => hshort item (List.mem_cons_of_mem data hmem))
            (Nat.lt_of_succ_lt_succ hcount)
          rw [Wire.fields_cons, List.append_assoc, fields, bind_ok hdata, bind_error hothers]

theorem exists_cut_of_fields (h : fields count unread = .error missing left) :
    ∃ items behind, items.length < count ∧ (∀ item ∈ items, item.length < 2 ^ 32) ∧
      unread = Wire.fields items ++ behind ∧ field behind = .error missing left := by
  induction count generalizing unread with
  | zero => cases h
  | succ count ih =>
      cases hfirst : field unread with
      | error missing' left' =>
          rw [fields, bind_error hfirst] at h
          cases h
          exact ⟨[], unread, Nat.succ_pos count, by simp, rfl, hfirst⟩
      | ok data behind =>
          rcases field_eq_ok_iff.1 hfirst with ⟨hfits, rfl⟩
          rw [fields, bind_ok hfirst] at h
          cases hlater : fields count behind with
          | ok others rest =>
              rw [bind_ok hlater] at h
              cases h
          | error missing' left' =>
              rw [bind_error hlater] at h
              cases h
              rcases ih hlater with ⟨items, cut, hcount, hshort, rfl, hcut⟩
              refine ⟨data :: items, cut, Nat.succ_lt_succ hcount, ?_, ?_, hcut⟩
              · simpa using ⟨hfits, hshort⟩
              · rw [Wire.fields_cons, List.append_assoc]

/-- Reading fields fails at the first one that is cut, with the error of that one. -/
theorem fields_eq_error_iff :
    fields count unread = .error missing left ↔
      ∃ items behind, items.length < count ∧ (∀ item ∈ items, item.length < 2 ^ 32) ∧
        unread = Wire.fields items ++ behind ∧ field behind = .error missing left := by
  constructor
  · exact exists_cut_of_fields
  · rintro ⟨items, behind, hcount, hshort, rfl, hcut⟩
    exact fields_of_cut hshort hcount hcut

end Reader

namespace Wire

variable {items items' : List Bytes} {tail tail' : Bytes}

/-- As many fields are the same where they begin the same buffer. -/
theorem fields_append_inj (hlength : items.length = items'.length)
    (hshort : ∀ item ∈ items, item.length < 2 ^ 32)
    (hshort' : ∀ item ∈ items', item.length < 2 ^ 32)
    (h : fields items ++ tail = fields items' ++ tail') : items = items' ∧ tail = tail' := by
  have hread := Reader.fields_append hshort tail
  have hread' := Reader.fields_append hshort' tail'
  rw [h, hlength, hread'] at hread
  cases hread
  exact ⟨rfl, rfl⟩

end Wire

namespace Reader

/-- Fields that were written one after the other are read back in order, and what follows them
is left.  Reading any buffer as fields gives fields whose written form is what was used up, or
stops at the first one that is cut, and then the fields before it are what can be read.  So no
buffer begins with two lists of as many fields. -/
theorem fields_decode_uniquely :
    (∀ (items : List Bytes) (tail : Bytes), (∀ item ∈ items, item.length < 2 ^ 32) →
      fields items.length (Wire.fields items ++ tail) = .ok items tail) ∧
    (∀ (count : Nat) (unread rest : Bytes) (items : List Bytes),
      fields count unread = .ok items rest →
        items.length = count ∧ (∀ item ∈ items, item.length < 2 ^ 32) ∧
          unread = Wire.fields items ++ rest) ∧
    (∀ (count : Nat) (unread left : Bytes) (missing : Shortfall),
      fields count unread = .error missing left ↔
        ∃ items behind, items.length < count ∧ fields items.length unread = .ok items behind ∧
          unread = Wire.fields items ++ behind ∧ field behind = .error missing left) ∧
    ∀ (items items' : List Bytes) (tail tail' : Bytes), items.length = items'.length →
      (∀ item ∈ items, item.length < 2 ^ 32) → (∀ item ∈ items', item.length < 2 ^ 32) →
      (Wire.fields items ++ tail = Wire.fields items' ++ tail' ↔ items = items' ∧ tail = tail') := by
  refine ⟨fun items tail hshort => fields_append hshort tail, ?_, ?_, ?_⟩
  · intro count unread rest items h
    exact fields_eq_ok_iff.1 h
  · intro count unread left missing
    rw [fields_eq_error_iff]
    constructor
    · rintro ⟨items, behind, hcount, hshort, rfl, hcut⟩
      exact ⟨items, behind, hcount, fields_append hshort behind, rfl, hcut⟩
    · rintro ⟨items, behind, hcount, hread, hwhole, hcut⟩
      exact ⟨items, behind, hcount, (fields_eq_ok_iff.1 hread).2.1, hwhole, hcut⟩
  · intro items items' tail tail' hlength hshort hshort'
    constructor
    · exact Wire.fields_append_inj hlength hshort hshort'
    · rintro ⟨rfl, rfl⟩
      rfl

end Reader

end TokenAgent
