import TokenAgent.Json.Skip
import TokenAgent.Json.Value

/-!
# Records

A record stands in a text as an object, with its fields in any order and unknown ones passed
over, or as a list of its fields in their order, of which the last ones may be missing.

Reading fills a draft, a record in which every field may be missing; `Field` tells for one field
how.
-/

namespace TokenAgent

namespace Json

/-- How one field of a record is read into a draft of type `δ`. -/
structure Field (δ : Type) where
  label : String
  /-- The field has been read. -/
  isSet : δ → Bool
  /-- Read the value of the field into the draft. -/
  fill : δ → Reader δ

namespace Reader

/-- The fields of a record in list form, as many as there are. -/
def positional {δ : Type} : (fields : List (Field δ)) → (first : Bool) → δ → Reader δ
  | [], _, draft => return draft
  | field :: rest, first, draft => do
      if ← moreItems first then
        positional rest false (← field.fill draft)
      else return draft

/-- Read the member with this label.  A known one may stand only once. -/
def member {δ : Type} (fields : List (Field δ)) (draft : δ) (label : String) : Reader δ :=
  match fields.find? (·.label == label) with
  | some field => do
      if field.isSet draft then refuse (.duplicateField label)
      else
        colon
        field.fill draft
  | none => do
      colon
      skipValue
      return draft

/-- The members of a record in object form. -/
def members {δ : Type} (fields : List (Field δ)) : (bound : Nat) → (first : Bool) → δ → Reader δ
  | 0, _, _ => throw .ended
  | bound + 1, first, draft => do
      if ← moreMembers first then
        advance
        members fields bound false (← member fields draft (← text))
      else return draft

/-- A record.  `finish` makes it from its draft; it is told whether the record was a list. -/
def record {δ α : Type} (fields : List (Field δ)) (empty : δ)
    (finish : Bool → δ → Except Mismatch α) (wanted : String) : Reader α := do
  match ← next with
  | '[' =>
      advance
      let a ← accept (finish true (← positional fields true empty))
      closeList
      return a
  | '\x7b' =>
      advance
      let a ← accept (finish false (← members fields ((← get).length + 1) true empty))
      closeObject
      return a
  | _ => refuseType wanted
where
  accept : Except Mismatch α → Reader α
    | .ok a => return a
    | .error what => refuse what

end Reader

end Json

end TokenAgent
