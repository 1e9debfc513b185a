import TokenAgent.Json.Record
import TokenAgent.Proofs.Json.Text

/-!
# Lists and records are read back

A list is read back item by item (`Reader.reads_list`).  A record is read back member by member:
`Fills` says that reading the members of an object one after the other leads from one draft to
another, and the record that is read is what the last draft is finished to
(`Reader.reads_record`).
-/

namespace TokenAgent

namespace Json

/-- Further pieces, a comma before each, and what stands behind them. -/
def further {α : Type} (write : α → List Char) (rest : List Char) : List α → List Char
  | [] => rest
  | a :: as => ',' :: (write a ++ further write rest as)

theorem separated_append {α : Type} (write : α → List Char) (a : α) (as : List α)
    (rest : List Char) :
    separated ((a :: as).map write) ++ rest = write a ++ further write rest as := by
  induction as generalizing a with
  | nil => rfl
  | cons next as ih =>
      calc
        separated ((a :: next :: as).map write) ++ rest
            = write a ++ ',' :: (separated ((next :: as).map write) ++ rest) := by
              simp [separated]
        _ = write a ++ ',' :: (write next ++ further write rest as) := by rw [ih]
        _ = write a ++ further write rest (next :: as) := rfl

theorem length_le_length_further {α : Type} (write : α → List Char) (rest : List Char)
    (as : List α) : as.length + rest.length ≤ (further write rest as).length := by
  induction as with
  | nil => simp [further]
  | cons a as ih =>
      simp only [further, List.length_cons, List.length_append]
      omega

namespace Reader

variable {α β δ : Type}

/-! ## Lists -/

/-- The text begins like a value, not like the end of a list. -/
def Opens (text : List Char) : Prop :=
  ∃ c rest, text = c :: rest ∧ isBlank c = false ∧ c ≠ ']'

theorem Opens.append {text : List Char} (h : Opens text) (more : List Char) :
    Opens (text ++ more) := by
  rcases h with ⟨c, rest, rfl, hc⟩
  exact ⟨c, rest ++ more, rfl, hc⟩

/-- Behind a piece there is a comma, or what stands behind all of them. -/
theorem closes_further (write : α → List Char) {rest : List Char} (hrest : Closes rest)
    (as : List α) : Closes (further write rest as) := by
  cases as with
  | nil => exact hrest
  | cons a as => simp [Closes, further]

theorem closes_bracket (rest : List Char) : Closes (']' :: rest) := by
  simp [Closes]

theorem closes_brace (rest : List Char) : Closes ('\x7d' :: rest) := by
  simp [Closes]

theorem moreItems_end (first : Bool) (rest : List Char) :
    moreItems first (']' :: rest) = .ok (false, ']' :: rest) := by
  rw [moreItems, bind_ok (next_of_cons rfl rest)]
  rfl

theorem moreItems_first {text : List Char} (h : Opens text) :
    moreItems true text = .ok (true, text) := by
  rcases h with ⟨c, rest, rfl, hblank, hc⟩
  rw [moreItems, bind_ok (next_of_cons hblank rest)]
  split
  · exact absurd rfl hc
  · rfl

theorem moreItems_comma {text : List Char} (h : Opens text) :
    moreItems false (',' :: text) = .ok (true, text) := by
  rcases h with ⟨c, rest, rfl, hblank, hc⟩
  have hnext : next (c :: rest) = .ok (c, c :: rest) := next_of_cons hblank rest
  rw [moreItems, bind_ok (next_of_cons rfl _)]
  change (advance >>= fun _ => next >>= fun d => if d = ']' then throw .malformed else pure true)
    (',' :: c :: rest) = _
  rw [bind_ok (advance_cons _ _), bind_ok hnext, if_neg hc]
  rfl

theorem items_step {item : Reader α} {bound : Nat} {a : α} {s s' s'' : List Char} (read : List α)
    (hmore : moreItems read.isEmpty s = .ok (true, s'))
    (hitem : item s' = .ok (a, s'')) :
    items item (bound + 1) read s = items item bound (a :: read) s'' := by
  rw [items, bind_ok hmore, if_pos rfl, bind_ok hitem]

theorem items_stop {item : Reader α} {bound : Nat} {s s' : List Char} (read : List α)
    (hmore : moreItems read.isEmpty s = .ok (false, s')) :
    items item (bound + 1) read s = .ok (read.reverse, s') := by
  rw [items, bind_ok hmore]
  rfl

/-- Further items are read until the bracket. -/
theorem items_further {item : Reader β} {write : α → List Char} {f : α → β}
    (hreads : ∀ a, Reads item (write a) (f a)) (hopens : ∀ a, Opens (write a)) {as : List α}
    {bound : Nat} (hbound : as.length < bound) {read : List β} (hread : read.isEmpty = false)
    (rest : List Char) :
    items item bound read (further write (']' :: rest) as)
      = .ok (read.reverse ++ as.map f, ']' :: rest) := by
  induction as generalizing bound read with
  | nil =>
      rcases Nat.exists_eq_succ_of_ne_zero (Nat.ne_zero_of_lt hbound) with ⟨bound, rfl⟩
      simpa [further] using items_stop read (moreItems_end read.isEmpty rest)
  | cons a as ih =>
      rcases Nat.exists_eq_succ_of_ne_zero (Nat.ne_zero_of_lt hbound) with ⟨bound, rfl⟩
      have hmore : moreItems read.isEmpty (further write (']' :: rest) (a :: as))
          = .ok (true, write a ++ further write (']' :: rest) as) := by
        rw [hread]
        exact moreItems_comma ((hopens a).append _)
      have hitem := hreads a _ (closes_further write (closes_bracket rest) as)
      have hlater : items item bound (f a :: read) (further write (']' :: rest) as)
          = .ok ((f a :: read).reverse ++ as.map f, ']' :: rest) :=
        ih (Nat.lt_of_succ_lt_succ hbound) rfl
      rw [items_step read hmore hitem, hlater]
      simp

/-- A list is read back item by item. -/
theorem reads_list {item : Reader β} {write : α → List Char} {f : α → β}
    (hreads : ∀ a, Reads item (write a) (f a)) (hopens : ∀ a, Opens (write a)) (as : List α)
    (wanted : String) : Reads (list item wanted) (array (as.map write)) (as.map f) := by
  intro rest _
  have hstart : array (as.map write) ++ rest
      = '[' :: (separated (as.map write) ++ ']' :: rest) := by
    simp [array]
  have hitems : items item ((separated (as.map write) ++ ']' :: rest).length + 1) []
      (separated (as.map write) ++ ']' :: rest) = .ok (as.map f, ']' :: rest) := by
    cases as with
    | nil => exact items_stop [] (moreItems_end true rest)
    | cons a as =>
        have hmore := moreItems_first ((hopens a).append (further write (']' :: rest) as))
        have hitem := hreads a _ (closes_further write (closes_bracket rest) as)
        have hlength := length_le_length_further write (']' :: rest) as
        rw [separated_append, items_step [] hmore hitem, items_further hreads hopens _ rfl rest]
        · rfl
        · simp only [List.length_append, List.length_cons] at hlength ⊢
          omega
  rw [hstart, list, bind_ok (next_of_cons rfl _), if_pos rfl, bind_ok (advance_cons _ _)]
  rw [bind_ok (get_eq _), bind_ok hitems, bind_ok (closeList_cons rest)]
  rfl

/-! ## Members -/

theorem moreMembers_end (first : Bool) (rest : List Char) :
    moreMembers first ('\x7d' :: rest) = .ok (false, '\x7d' :: rest) := by
  rw [moreMembers, bind_ok (next_of_cons rfl rest)]
  rfl

theorem moreMembers_first (rest : List Char) :
    moreMembers true ('"' :: rest) = .ok (true, '"' :: rest) := by
  rw [moreMembers, bind_ok (next_of_cons rfl rest)]
  rfl

theorem moreMembers_comma (rest : List Char) :
    moreMembers false (',' :: '"' :: rest) = .ok (true, '"' :: rest) := by
  rw [moreMembers, bind_ok (next_of_cons rfl _)]
  change (advance >>= fun _ => next >>= fun d => if d = '"' then pure true else throw .malformed)
    (',' :: '"' :: rest) = _
  rw [bind_ok (advance_cons _ _), bind_ok (next_of_cons rfl rest), if_pos rfl]
  rfl

/-- Reading the members one after the other leads from one draft to the other. -/
inductive Fills (fields : List (Field δ)) : δ → List (String × List Char) → δ → Prop where
  | nil (d : δ) : Fills fields d [] d
  | cons {d d' d'' : δ} {label : String} {value : List Char} {ms : List (String × List Char)}
      (first : Reads (member fields d label) (':' :: value) d')
      (later : Fills fields d' ms d'') : Fills fields d ((label, value) :: ms) d''

theorem Fills.append {fields : List (Field δ)} {d d' d'' : δ}
    {ms ms' : List (String × List Char)} (h : Fills fields d ms d')
    (h' : Fills fields d' ms' d'') : Fills fields d (ms ++ ms') d'' := by
  induction h with
  | nil d => exact h'
  | cons first _ ih => exact .cons first (ih h')

/-- A member of a known field that has not been read fills this field. -/
theorem reads_member_known {fields : List (Field δ)} {field : Field δ} {label : String}
    {value : List Char} {d d' : δ} (known : fields.find? (·.label == label) = some field)
    (fresh : field.isSet d = false) (fills : Reads (field.fill d) value d') :
    Reads (member fields d label) (':' :: value) d' := by
  intro rest hrest
  rw [member, known]
  dsimp only
  rw [fresh, if_neg Bool.false_ne_true, List.cons_append, bind_ok (colon_cons _)]
  exact fills rest hrest

/-- A member of no known field fills nothing. -/
theorem reads_member_unknown {fields : List (Field δ)} {label : String} {value : List Char}
    (d : δ) (unknown : fields.find? (·.label == label) = none)
    (skips : Reads skipValue value ()) : Reads (member fields d label) (':' :: value) d := by
  intro rest hrest
  rw [member, unknown]
  dsimp only
  rw [List.cons_append, bind_ok (colon_cons _), bind_ok (skips rest hrest)]
  rfl

theorem Fills.known {fields : List (Field δ)} {field : Field δ} {label : String}
    {value : List Char} {d d' d'' : δ} {ms : List (String × List Char)}
    (known : fields.find? (·.label == label) = some field) (fresh : field.isSet d = false)
    (fills : Reads (field.fill d) value d') (later : Fills fields d' ms d'') :
    Fills fields d ((label, value) :: ms) d'' :=
  .cons (reads_member_known known fresh fills) later

/-- A member as it is written. -/
def memberText (m : String × List Char) : List Char :=
  encode m.1 ++ ':' :: m.2

theorem memberText_append (label : String) (value rest : List Char) :
    memberText (label, value) ++ rest
      = '"' :: (label.toList.flatMap encodeChar ++ '"' :: ':' :: (value ++ rest)) := by
  simp [memberText, encode]

/-- One more member is read into the draft. -/
theorem members_step {fields : List (Field δ)} {label : String} {value rest s : List Char}
    {d d' : δ} {first : Bool} (bound : Nat) (h : Reads (member fields d label) (':' :: value) d')
    (hrest : Closes rest)
    (hmore : moreMembers first s = .ok (true, memberText (label, value) ++ rest)) :
    members fields (bound + 1) first d s = members fields bound false d' rest := by
  have hmember : member fields d label (':' :: (value ++ rest)) = .ok (d', rest) := h rest hrest
  rw [memberText_append] at hmore
  rw [members, bind_ok hmore, if_pos rfl, bind_ok (advance_cons _ _), bind_ok (text_encode _ _),
    bind_ok hmember]

theorem members_stop {fields : List (Field δ)} {d : δ} {first : Bool} {s s' : List Char}
    (bound : Nat) (hmore : moreMembers first s = .ok (false, s')) :
    members fields (bound + 1) first d s = .ok (d, s') := by
  rw [members, bind_ok hmore]
  rfl

/-- Further members are read until the brace. -/
theorem members_further {fields : List (Field δ)} {d d' : δ} {ms : List (String × List Char)}
    (h : Fills fields d ms d') {bound : Nat} (hbound : ms.length < bound) (rest : List Char) :
    members fields bound false d (further memberText ('\x7d' :: rest) ms)
      = .ok (d', '\x7d' :: rest) := by
  induction h generalizing bound with
  | nil d =>
      rcases Nat.exists_eq_succ_of_ne_zero (Nat.ne_zero_of_lt hbound) with ⟨bound, rfl⟩
      exact members_stop bound (moreMembers_end false rest)
  | @cons d d' d'' label value ms first later ih =>
      rcases Nat.exists_eq_succ_of_ne_zero (Nat.ne_zero_of_lt hbound) with ⟨bound, rfl⟩
      have hmore : moreMembers false (further memberText ('\x7d' :: rest) ((label, value) :: ms))
          = .ok (true, memberText (label, value) ++ further memberText ('\x7d' :: rest) ms) := by
        rw [further, memberText_append]
        exact moreMembers_comma _
      rw [members_step bound first (closes_further _ (closes_brace rest) ms) hmore]
      exact ih (Nat.lt_of_succ_lt_succ hbound)

/-! ## Records -/

/-- A record is read back from its members. -/
theorem reads_record {fields : List (Field δ)} {empty d : δ} {ms : List (String × List Char)}
    {finish : Bool → δ → Except Mismatch α} {a : α} (h : Fills fields empty ms d)
    (hfinish : finish false d = .ok a) (wanted : String) :
    Reads (record fields empty finish wanted) (object ms) a := by
  intro rest _
  have hstart : object ms ++ rest
      = '\x7b' :: (separated (ms.map memberText) ++ '\x7d' :: rest) := by
    change '\x7b' :: (separated (ms.map memberText) ++ ['\x7d'] ++ rest) = _
    simp
  have hmembers : members fields ((separated (ms.map memberText) ++ '\x7d' :: rest).length + 1)
      true empty (separated (ms.map memberText) ++ '\x7d' :: rest) = .ok (d, '\x7d' :: rest) := by
    cases h with
    | nil d => exact members_stop _ (moreMembers_end true rest)
    | @cons _ d' _ label value ms first later =>
        have hlength := length_le_length_further memberText ('\x7d' :: rest) ms
        have hmore : moreMembers true
            (memberText (label, value) ++ further memberText ('\x7d' :: rest) ms)
              = .ok (true, memberText (label, value)
                ++ further memberText ('\x7d' :: rest) ms) := by
          rw [memberText_append]
          exact moreMembers_first _
        rw [separated_append,
          members_step _ first (closes_further _ (closes_brace rest) ms) hmore]
        apply members_further later
        simp only [List.length_append, List.length_cons] at hlength ⊢
        omega
  have haccept : record.accept (finish false d) ('\x7d' :: rest) = .ok (a, '\x7d' :: rest) := by
    rw [hfinish]
    rfl
  rw [hstart, record, bind_ok (next_of_cons rfl _)]
  change (advance >>= fun _ => get >>= fun text => members fields (text.length + 1) true empty
    >>= fun d => record.accept (finish false d) >>= fun a => closeObject >>= fun _ => pure a) _ = _
  rw [bind_ok (advance_cons _ _), bind_ok (get_eq _), bind_ok hmembers, bind_ok haccept,
    bind_ok (closeObject_cons rest)]
  rfl

/-! ## Whole texts -/

/-- A value that is there is read as the value. -/
theorem Reads.optional {value : Reader α} {a : α} {c : Char} {text : List Char}
    (h : Reads value (c :: text) a) (hblank : isBlank c = false) (hnull : c ≠ 'n') :
    Reads (optional value) (c :: text) (some a) := by
  intro rest hrest
  have hnext : next? (c :: text ++ rest) = .ok (some c, c :: text ++ rest) :=
    next?_of_cons hblank (text ++ rest)
  have hvalue : ¬ some c = some 'n' := by
    simpa using hnull
  rw [Reader.optional, bind_ok hnext, if_neg hvalue, bind_ok (h rest hrest)]
  rfl

theorem Reads.document {value : Reader α} {text : List Char} {a : α} (h : Reads value text a) :
    document value (String.ofList text) = .ok a := by
  have hvalue : value.run (String.ofList text).toList = .ok (a, []) := by
    have hnothing : Closes [] := by
      simp [Closes]
    have hall := h [] hnothing
    rw [List.append_nil] at hall
    rw [String.toList_ofList]
    exact hall
  rw [Reader.document, hvalue]
  rfl

end Reader

end Json

end TokenAgent
