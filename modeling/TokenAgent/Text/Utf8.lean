import TokenAgent.Bytes

/-!
# Text as bytes
-/

namespace TokenAgent

namespace Utf8

/-- The UTF-8 bytes of a text. -/
def encode (s : String) : Bytes :=
  s.toUTF8.data.toList

/-- The text that a buffer spells, if it is well-formed UTF-8. -/
def decode? (bs : Bytes) : Option String :=
  String.fromUTF8? ⟨bs.toArray⟩

theorem decode?_encode (s : String) : decode? (encode s) = some s := by
  rcases s with ⟨bytes, valid⟩
  simp [decode?, encode, String.fromUTF8?, valid, String.fromUTF8]

/-- A buffer spells a text if and only if it is what the text is encoded as. -/
theorem decode?_eq_some_iff {bs : Bytes} {s : String} : decode? bs = some s ↔ bs = encode s := by
  constructor
  · intro h
    rw [decode?, String.fromUTF8?] at h
    split at h
    · cases h
      rfl
    · cases h
  · rintro rfl
    exact decode?_encode s

end Utf8

end TokenAgent
