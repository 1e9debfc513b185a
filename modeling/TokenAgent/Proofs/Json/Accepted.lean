import TokenAgent.Json.Record
import TokenAgent.Proofs.Json.Reading

/-!
# What is known of accepted texts

Not every text that is accepted was written by this library.  `Reader.Yields` says what holds of
whatever a reader gives, on any text at all.  It goes from the items to the list
(`Reader.list_yields`) and from the fields to the record (`Reader.record_yields`).
-/

namespace TokenAgent

namespace Json

namespace Reader

variable {α β δ : Type} {s s' : List Char}

/-! ## Steps -/

/-- Whatever the reader gives has the property. -/
def Yields (x : Reader α) (P : α → Prop) : Prop :=
  ∀ s a s', x s = .ok (a, s') → P a

theorem exists_of_bind {x : Reader α} {f : α → Reader β} {b : β}
    (h : (x >>= f) s = .ok (b, s')) :
    ∃ a between, x s = .ok (a, between) ∧ f a between = .ok (b, s') := by
  cases hx : x s with
  | error e =>
      simp only [bind, StateT.bind, hx, Except.bind] at h
      cases h
  | ok first =>
      rcases first with ⟨a, between⟩
      rw [bind_ok hx] at h
      exact ⟨a, between, rfl, h⟩

theorem yields_true (x : Reader α) : Yields x fun _ => True :=
  fun _ _ _ _ => trivial

theorem yields_pure {P : α → Prop} {a : α} (h : P a) : Yields (pure a : Reader α) P := by
  rintro s b s' hrun
  cases hrun
  exact h

theorem yields_throw (P : α → Prop) (e : Error) : Yields (throw e : Reader α) P := by
  rintro s a s' hrun
  cases hrun

theorem Yields.bind {Q : α → Prop} {P : β → Prop} {x : Reader α} {f : α → Reader β}
    (hx : Yields x Q) (hf : ∀ a, Q a → Yields (f a) P) : Yields (x >>= f) P := by
  intro s b s' hrun
  rcases exists_of_bind hrun with ⟨a, between, hfirst, hlater⟩
  exact hf a (hx s a between hfirst) between b s' hlater

/-- The first step gives anything, so all that counts is how it goes on. -/
theorem yields_of_later {P : β → Prop} {x : Reader α} {f : α → Reader β}
    (hf : ∀ a, Yields (f a) P) : Yields (x >>= f) P :=
  (yields_true x).bind fun a _ => hf a

/-! ## Lists and records -/

/-- What holds of every item that can be read holds of all items of a list. -/
theorem items_yields {item : Reader α} {P : α → Prop} (hitem : Yields item P) (bound : Nat)
    {read : List α} (hread : ∀ a ∈ read, P a) :
    Yields (items item bound read) fun as => ∀ a ∈ as, P a := by
  induction bound generalizing read with
  | zero => exact yields_throw _ .ended
  | succ bound ih =>
      rw [items]
      refine yields_of_later fun more => ?_
      split
      · -- One item more, which has the property like those that were read before.
        refine hitem.bind fun a ha => ?_
        refine ih ?_
        simpa using ⟨ha, hread⟩
      · refine yields_pure ?_
        simpa using hread

theorem list_yields {item : Reader α} {P : α → Prop} (hitem : Yields item P) (wanted : String) :
    Yields (list item wanted) fun as => ∀ a ∈ as, P a := by
  rw [list]
  refine yields_of_later fun c => ?_
  split
  · refine yields_of_later fun _ => ?_
    refine yields_of_later fun text => ?_
    refine (items_yields hitem _ fun _ hnone => absurd hnone List.not_mem_nil).bind fun as has => ?_
    refine yields_of_later fun _ => ?_
    exact yields_pure has
  · refine yields_of_later fun found => ?_
    exact yields_throw _ _

section Records

variable {fields : List (Field δ)} {Q : δ → Prop}
  (hfill : ∀ field ∈ fields, ∀ d, Q d → Yields (field.fill d) Q)

include hfill

/-- What holds of a draft and is kept by every field holds of it however far it is filled. -/
theorem positional_yields (first : Bool) {d : δ} (hd : Q d) :
    Yields (positional fields first d) Q := by
  induction fields generalizing first d with
  | nil => exact yields_pure hd
  | cons field rest ih =>
      rw [positional]
      refine yields_of_later fun more => ?_
      split
      · refine (hfill field List.mem_cons_self d hd).bind fun d' hd' => ?_
        exact ih (fun field hmem => hfill field (List.mem_cons_of_mem _ hmem)) false hd'
      · exact yields_pure hd

theorem member_yields {d : δ} (hd : Q d) (label : String) : Yields (member fields d label) Q := by
  rw [member]
  split
  · -- A known label fills its field, unless it stands twice; others leave the draft as it is.
    rename_i field hfind
    split
    · exact yields_throw _ _
    · refine yields_of_later fun _ => ?_
      exact hfill field (List.mem_of_find?_eq_some hfind) d hd
  · refine yields_of_later fun _ => ?_
    refine yields_of_later fun _ => ?_
    exact yields_pure hd

theorem members_yields (bound : Nat) (first : Bool) {d : δ} (hd : Q d) :
    Yields (members fields bound first d) Q := by
  induction bound generalizing first d with
  | zero => exact yields_throw _ .ended
  | succ bound ih =>
      rw [members]
      refine yields_of_later fun more => ?_
      split
      · refine yields_of_later fun _ => ?_
        refine yields_of_later fun label => ?_
        refine (member_yields hfill hd label).bind fun d' hd' => ?_
        exact ih false hd'
      · exact yields_pure hd

/-- What finishing makes of every such draft holds of every record. -/
theorem record_yields {empty : δ} {finish : Bool → δ → Except Mismatch α} {P : α → Prop}
    (hempty : Q empty) (hfinish : ∀ inList d a, Q d → finish inList d = .ok a → P a)
    (wanted : String) : Yields (record fields empty finish wanted) P := by
  have haccept : ∀ inList d, Q d → Yields (record.accept (finish inList d)) P := by
    intro inList d hd
    cases hdone : finish inList d with
    | ok a => exact yields_pure (hfinish inList d a hd hdone)
    | error what => exact yields_throw _ _
  rw [record]
  refine yields_of_later fun c => ?_
  -- A record is a list of its fields or an object; anything else is refused.
  split
  · refine yields_of_later fun _ => ?_
    refine (positional_yields hfill true hempty).bind fun d hd => ?_
    refine (haccept true d hd).bind fun a ha => ?_
    refine yields_of_later fun _ => ?_
    exact yields_pure ha
  · refine yields_of_later fun _ => ?_
    refine yields_of_later fun text => ?_
    refine (members_yields hfill _ true hempty).bind fun d hd => ?_
    refine (haccept false d hd).bind fun a ha => ?_
    refine yields_of_later fun _ => ?_
    exact yields_pure ha
  · refine yields_of_later fun found => ?_
    exact yields_throw _ _

end Records

theorem Yields.document {value : Reader α} {P : α → Prop} (h : Yields value P) {text : String}
    {a : α} (haccepted : document value text = .ok a) : P a := by
  cases hrun : value.run text.toList with
  | error e =>
      rw [Reader.document, hrun] at haccepted
      cases haccepted
  | ok done =>
      rcases done with ⟨b, rest⟩
      have hb : P b := h _ b rest hrun
      rw [Reader.document, hrun] at haccepted
      change (if (rest.dropWhile isBlank).isEmpty then Except.ok b else .error Error.malformed) = _
        at haccepted
      by_cases hrest : (rest.dropWhile isBlank).isEmpty = true
      · rw [if_pos hrest] at haccepted
        cases haccepted
        exact hb
      · rw [if_neg hrest] at haccepted
        cases haccepted

end Reader

end Json

end TokenAgent
