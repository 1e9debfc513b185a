import Mathlib.Data.List.TakeWhile

/-!
# Where a run of characters ends

A run of characters of one kind is cut off where the text behind it begins with another kind.
-/

namespace TokenAgent

variable {p : Char → Bool} {front rest : List Char}

/-- The text does not begin with a character of the kind. -/
def Stops (p : Char → Bool) (rest : List Char) : Prop :=
  ∀ c ∈ rest.head?, p c = false

/-- A text begins with a given character, or it does not. -/
theorem exists_cons_or_stops (c : Char) (s : List Char) :
    (∃ rest, s = c :: rest) ∨ Stops (· == c) s := by
  cases s with
  | nil => exact Or.inr fun c' hc' => by cases hc'
  | cons first rest =>
      by_cases hc : first = c
      · exact Or.inl ⟨rest, by rw [hc]⟩
      · right
        intro c' hc'
        cases hc'
        simpa using hc

theorem takeWhile_append_of_stops (hfront : ∀ c ∈ front, p c = true) (hrest : Stops p rest) :
    (front ++ rest).takeWhile p = front := by
  have hnothing : rest.takeWhile p = [] := by
    cases rest with
    | nil => rfl
    | cons c more => simp [hrest c rfl]
  rw [List.takeWhile_append_of_pos hfront, hnothing, List.append_nil]

theorem dropWhile_append_of_stops (hfront : ∀ c ∈ front, p c = true) (hrest : Stops p rest) :
    (front ++ rest).dropWhile p = rest := by
  rw [List.dropWhile_append_of_pos hfront]
  cases rest with
  | nil => rfl
  | cons c more => simp [hrest c rfl]

/-- The longest run of a kind that a text begins with, and what is behind it. -/
structure LeadingRun (p : Char → Bool) (s front rest : List Char) : Prop where
  whole : s = front ++ rest
  kind : ∀ c ∈ front, p c = true
  stops : Stops p rest

theorem leadingRun_iff {s : List Char} :
    LeadingRun p s front rest ↔ s.takeWhile p = front ∧ s.dropWhile p = rest := by
  constructor
  · rintro ⟨rfl, hkind, hstops⟩
    exact ⟨takeWhile_append_of_stops hkind hstops, dropWhile_append_of_stops hkind hstops⟩
  · rintro ⟨rfl, rfl⟩
    refine ⟨List.takeWhile_append_dropWhile.symm, fun c => List.mem_takeWhile_imp, ?_⟩
    intro c hc
    have hhead := List.head?_dropWhile_not p s
    rw [Option.mem_def.1 hc] at hhead
    exact hhead

end TokenAgent
