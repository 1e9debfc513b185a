import TokenAgent.Json.Printer
import TokenAgent.Json.Value

/-!
# Readers on written text

A value is written without blanks, and what follows it in a written text is a comma, a bracket or
a brace, or nothing.  `Reader.Reads` says that a reader takes a value back from such a text and
leaves what follows it.
-/

namespace TokenAgent

namespace Json

namespace Reader

variable {α β : Type} {s s' : List Char}

/-! ## One step after the other -/

theorem bind_ok {x : Reader α} {f : α → Reader β} {a : α} (h : x s = .ok (a, s')) :
    (x >>= f) s = f a s' := by
  simp only [bind, StateT.bind, h, Except.bind]

/-! ## Values that are read back -/

/-- What may stand behind a written value. -/
def Closes (rest : List Char) : Prop :=
  ∀ c ∈ rest.head?, c = ',' ∨ c = ']' ∨ c = '\x7d'

theorem Closes.head_ne {d : Char} {rest : List Char} (h : Closes rest)
    (hd : d ≠ ',' ∧ d ≠ ']' ∧ d ≠ '\x7d') : rest.head? ≠ some d := by
  intro hhead
  rcases h d hhead with rfl | rfl | rfl
  · exact hd.1 rfl
  · exact hd.2.1 rfl
  · exact hd.2.2 rfl

/-- The reader takes the value back from the text that stands for it, and leaves what stands
behind. -/
def Reads (x : Reader α) (text : List Char) (a : α) : Prop :=
  ∀ rest, Closes rest → x (text ++ rest) = .ok (a, rest)

theorem Reads.map {x : Reader α} {text : List Char} {a : α} (h : Reads x text a) (f : α → β) :
    Reads (do return f (← x)) text (f a) := by
  intro rest hrest
  rw [bind_ok (h rest hrest)]
  rfl

/-! ## Punctuation -/

theorem next?_of_cons {c : Char} (hc : isBlank c = false) (rest : List Char) :
    next? (c :: rest) = .ok (some c, c :: rest) := by
  have hdrop : (c :: rest).dropWhile isBlank = c :: rest := by
    simp [hc]
  change Except.ok (((c :: rest).dropWhile isBlank).head?, (c :: rest).dropWhile isBlank) = _
  rw [hdrop]
  rfl

theorem next_of_cons {c : Char} (hc : isBlank c = false) (rest : List Char) :
    next (c :: rest) = .ok (c, c :: rest) := by
  rw [next, bind_ok (next?_of_cons hc rest)]
  rfl

theorem get_eq (text : List Char) : (get : Reader (List Char)) text = .ok (text, text) := rfl

theorem advance_cons (c : Char) (rest : List Char) : advance (c :: rest) = .ok ((), rest) := rfl

theorem colon_cons (rest : List Char) : colon (':' :: rest) = .ok ((), rest) := by
  rw [colon, bind_ok (next_of_cons rfl rest)]
  rfl

theorem closeList_cons (rest : List Char) : closeList (']' :: rest) = .ok ((), rest) := by
  rw [closeList, bind_ok (next_of_cons rfl rest)]
  rfl

theorem closeObject_cons (rest : List Char) : closeObject ('\x7d' :: rest) = .ok ((), rest) := by
  rw [closeObject, bind_ok (next_of_cons rfl rest)]
  rfl

end Reader

end Json

end TokenAgent
