import TokenAgent.Json.Skip
import TokenAgent.Proofs.Json.Reading

/-!
# Strings are read back

Every character has a written form that reads back as this character, whatever stands behind it
(`Json.textBody_encodeChar`).  So a whole string is read back, with controls, quotes and
backslashes in it (`Reader.reads_string`), and passed over where it is not wanted
(`Reader.reads_skipValue`).
-/

namespace TokenAgent

namespace Json

/-! ## Escapes by number -/

theorem hexValue?_digitChar {d : Nat} (h : d < 16) : hexValue? (Nat.digitChar d) = some d := by
  revert d
  decide

/-- A control is written with four digits of which the first two are zeros. -/
theorem lower_of_control {n : Nat} (h : n < 0x20) :
    (Hex.lower 4 n).toList = ['0', '0', Nat.digitChar (n / 16), Nat.digitChar (n % 16)] := by
  revert n
  decide

theorem hexEscape_lower {n : Nat} (h : n < 0x20) (rest : List Char) :
    hexEscape ((Hex.lower 4 n).toList ++ rest) = .ok (n, rest) := by
  have hzero : hexValue? '0' = some 0 := rfl
  have hhigh : hexValue? (Nat.digitChar (n / 16)) = some (n / 16) :=
    hexValue?_digitChar (by omega)
  have hlow : hexValue? (Nat.digitChar (n % 16)) = some (n % 16) :=
    hexValue?_digitChar (Nat.mod_lt n (by decide))
  have hvalue : ((0 * 16 + 0) * 16 + n / 16) * 16 + n % 16 = n := by
    omega
  rw [lower_of_control h]
  simp only [List.cons_append, List.nil_append, hexEscape, hzero, hhigh, hlow, hvalue]

theorem numberEscape_lower {n : Nat} (h : n < 0x20) (rest : List Char) :
    numberEscape ((Hex.lower 4 n).toList ++ rest) = .ok (Char.ofNat n, rest) := by
  have hlow : isLowSurrogate n = false := by
    simp [isLowSurrogate]
    omega
  have hhigh : isHighSurrogate n = false := by
    simp [isHighSurrogate]
    omega
  simp [numberEscape, hexEscape_lower h, hlow, hhigh, bind, Except.bind]
  rfl

/-! ## Characters -/

theorem textBody_quote (read rest : List Char) :
    textBody read ('"' :: rest) = .ok (read.reverse, rest) := by
  rw [textBody]

theorem textBody_escape {c : Char} {text rest : List Char} (h : escape text = .ok (c, rest))
    (read : List Char) : textBody read ('\\' :: text) = textBody (c :: read) rest := by
  rw [textBody]
  split
  · rename_i c' rest' hescape
    rw [h] at hescape
    cases hescape
    rfl
  · rename_i e hescape
    rw [h] at hescape
    cases hescape

theorem textBody_plain {c : Char} (hquote : c ≠ '"') (hbackslash : c ≠ '\\')
    (hprintable : ¬ c.toNat < 0x20) (read rest : List Char) :
    textBody read (c :: rest) = textBody (c :: read) rest := by
  rw [textBody, if_neg hprintable]
  · exact hquote
  · exact hbackslash

/-- The three ways in which a character is written: by a letter of its own, by its number, or as
it is. -/
theorem encodeChar_cases (c : Char) :
    (∃ letter, letterEscape? letter = some c ∧ letter ≠ 'u' ∧ encodeChar c = ['\\', letter]) ∨
    (c.toNat < 0x20 ∧ encodeChar c = '\\' :: 'u' :: (Hex.lower 4 c.toNat).toList) ∨
    (c ≠ '"' ∧ c ≠ '\\' ∧ ¬ c.toNat < 0x20 ∧ encodeChar c = [c]) := by
  unfold encodeChar
  split
  -- The first seven characters have letters, and any other may still be a control.
  iterate 7 · exact .inl ⟨_, rfl, by decide, rfl⟩
  · rename_i hquote hbackslash _ _ _ _ _
    by_cases hcontrol : c.toNat < 0x20
    · exact .inr (.inl ⟨hcontrol, if_pos hcontrol⟩)
    · exact .inr (.inr ⟨hquote, hbackslash, hcontrol, if_neg hcontrol⟩)

theorem escape_letter {letter c : Char} (h : letterEscape? letter = some c) (hu : letter ≠ 'u')
    (rest : List Char) : escape (letter :: rest) = .ok (c, rest) := by
  rw [escape, h]
  exact hu

theorem escape_lower {c : Char} (hcontrol : c.toNat < 0x20) (rest : List Char) :
    escape ('u' :: (Hex.lower 4 c.toNat).toList ++ rest) = .ok (c, rest) := by
  rw [List.cons_append, escape, numberEscape_lower hcontrol, Char.ofNat_toNat]

/-- A written character is read back, whatever stands behind it. -/
theorem textBody_encodeChar (c : Char) (read rest : List Char) :
    textBody read (encodeChar c ++ rest) = textBody (c :: read) rest := by
  rcases encodeChar_cases c with
    ⟨letter, hletter, hu, hc⟩ | ⟨hcontrol, hc⟩ | ⟨hquote, hbackslash, hprintable, hc⟩
  · rw [hc]
    exact textBody_escape (escape_letter hletter hu rest) read
  · rw [hc]
    exact textBody_escape (escape_lower hcontrol rest) read
  · rw [hc]
    exact textBody_plain hquote hbackslash hprintable read rest

theorem textBody_flatMap (text read rest : List Char) :
    textBody read (text.flatMap encodeChar ++ '"' :: rest)
      = .ok (read.reverse ++ text, rest) := by
  induction text generalizing read with
  | nil => simpa using textBody_quote read rest
  | cons c text ih =>
      rw [List.flatMap_cons, List.append_assoc, textBody_encodeChar, ih]
      simp

/-! ## Passing over strings -/

theorem skipBody_quote (rest : List Char) : skipBody ('"' :: rest) = .ok rest := by
  rw [skipBody]

theorem skipBody_escape {text rest : List Char} (h : skipEscape text = .ok rest) :
    skipBody ('\\' :: text) = skipBody rest := by
  rw [skipBody]
  split
  · rename_i rest' hescape
    rw [h] at hescape
    cases hescape
    rfl
  · rename_i e hescape
    rw [h] at hescape
    cases hescape

theorem skipBody_plain {c : Char} (hquote : c ≠ '"') (hbackslash : c ≠ '\\')
    (hprintable : ¬ c.toNat < 0x20) (rest : List Char) :
    skipBody (c :: rest) = skipBody rest := by
  rw [skipBody, if_neg hprintable]
  · exact hquote
  · exact hbackslash

/-- A written character is passed over, whatever stands behind it. -/
theorem skipBody_encodeChar (c : Char) (rest : List Char) :
    skipBody (encodeChar c ++ rest) = skipBody rest := by
  rcases encodeChar_cases c with
    ⟨letter, hletter, hu, hc⟩ | ⟨hcontrol, hc⟩ | ⟨hquote, hbackslash, hprintable, hc⟩
  · have hescape : skipEscape (letter :: rest) = .ok rest := by
      rw [skipEscape, hletter]
      exact hu
    rw [hc]
    exact skipBody_escape hescape
  · have hescape : skipEscape ('u' :: (Hex.lower 4 c.toNat).toList ++ rest) = .ok rest := by
      rw [List.cons_append, skipEscape, hexEscape_lower hcontrol]
      rfl
    rw [hc]
    exact skipBody_escape hescape
  · rw [hc]
    exact skipBody_plain hquote hbackslash hprintable rest

theorem skipBody_flatMap (text rest : List Char) :
    skipBody (text.flatMap encodeChar ++ '"' :: rest) = .ok rest := by
  induction text with
  | nil => exact skipBody_quote rest
  | cons c text ih => rw [List.flatMap_cons, List.append_assoc, skipBody_encodeChar, ih]

/-! ## Strings -/

namespace Reader

/-- Behind its opening quote a written text is read to its closing quote, and no further. -/
theorem text_encode (s : String) (rest : List Char) :
    text (s.toList.flatMap encodeChar ++ '"' :: rest) = .ok (s, rest) := by
  change (textBody [] _ >>= fun read => Except.ok (String.ofList read.1, read.2)) = _
  rw [textBody_flatMap]
  simp [bind, Except.bind]

theorem encode_append (s : String) (rest : List Char) :
    encode s ++ rest = '"' :: (s.toList.flatMap encodeChar ++ '"' :: rest) := by
  simp [encode]

theorem reads_string (wanted s : String) : Reads (string wanted) (encode s) s := by
  intro rest _
  rw [encode_append, string, bind_ok (next_of_cons rfl _), if_pos rfl, bind_ok (advance_cons _ _)]
  exact text_encode s rest

/-- A text can be passed over like any value. -/
theorem reads_skipValue (s : String) : Reads skipValue (encode s) () := by
  intro rest _
  have hstart : skipStep .value [] (encode s ++ rest) = .ok (none, rest) := by
    have htext : skipText (s.toList.flatMap encodeChar ++ '"' :: rest) = .ok ((), rest) := by
      change (skipBody _ >>= fun rest => Except.ok ((), rest)) = _
      rw [skipBody_flatMap]
      rfl
    rw [encode_append, skipStep, bind_ok (next_of_cons rfl _)]
    dsimp only
    rw [skipStart, bind_ok (next_of_cons rfl _)]
    change (advance >>= fun _ => skipText >>= fun _ => pure (behindValue [])) _ = _
    rw [bind_ok (advance_cons _ _), bind_ok htext]
    rfl
  rw [skipValue, bind_ok (get_eq _), skipSteps, bind_ok hstart]
  rfl

/-- A name stands as a text. -/
theorem reads_variant {α : Type} {named : String → Option α} {name : String} {a : α}
    (h : named name = some a) (wanted : String) : Reads (variant named wanted) (encode name) a := by
  intro rest _
  rw [encode_append, variant, bind_ok (next_of_cons rfl _)]
  change (advance >>= fun _ => text >>= variant.choose named wanted) _ = _
  rw [bind_ok (advance_cons _ _), bind_ok (text_encode name rest), variant.choose, h]
  rfl

end Reader

end Json

end TokenAgent
