import TokenAgent.Proofs.Json.Reading
import TokenAgent.Proofs.Runs

/-!
# Numbers are read back

A natural number is written in decimal without leading zeros.  It is read back as long as it
fits 64 bits and something that is no part of a number stands behind it
(`Reader.reads_unsigned`).
-/

namespace TokenAgent

namespace Json

/-! ## Digits -/

theorem natural_eq (n : Nat) : natural n = Nat.toDigits 10 n := by
  rw [natural, Nat.toString_eq_repr, Nat.toList_repr]

theorem isDigit_of_mem_natural {n : Nat} {c : Char} (h : c ∈ natural n) : c.isDigit = true := by
  rw [natural_eq] at h
  exact Nat.isDigit_of_mem_toDigits (by decide) (by decide) h

theorem natural_ne_nil (n : Nat) : natural n ≠ [] := by
  rw [natural_eq]
  exact Nat.toDigits_ne_nil

theorem exists_natural_cons (n : Nat) : ∃ c more, natural n = c :: more ∧ c.isDigit = true := by
  rcases List.exists_cons_of_ne_nil (natural_ne_nil n) with ⟨c, more, hn⟩
  exact ⟨c, more, hn, isDigit_of_mem_natural (hn ▸ List.mem_cons_self)⟩

/-- A number with more digits than one does not begin with a zero. -/
theorem natural_of_zero_first {n : Nat} (h : (natural n).head? = some '0') : natural n = ['0'] := by
  rw [natural_eq] at h ⊢
  induction n using Nat.strongRecOn with
  | ind n ih =>
      by_cases hone : n < 10
      · rw [Nat.toDigits_of_lt_base hone] at h ⊢
        simpa using h
      · -- The digits before the last are those of a smaller number, which is not zero.
        have hten : 10 ≤ n := Nat.not_lt.1 hone
        have hless : n / 10 < n := Nat.div_lt_self (by omega) (by decide)
        have hdigits := Nat.toDigits_of_base_le (by decide) hten
        have hhead : (Nat.toDigits 10 n).head? = (Nat.toDigits 10 (n / 10)).head? := by
          rw [hdigits, List.head?_append, Option.or_of_isSome]
          simp
        have hzero : Nat.toDigits 10 (n / 10) = Nat.toDigits 10 0 := ih (n / 10) hless (hhead ▸ h)
        have hvalue : n / 10 = 0 := by
          calc
            n / 10 = Nat.ofDigitChars 10 (Nat.toDigits 10 (n / 10)) 0 :=
              Nat.ofDigitChars_ten_toDigits.symm
            _ = Nat.ofDigitChars 10 (Nat.toDigits 10 0) 0 := by rw [hzero]
            _ = 0 := Nat.ofDigitChars_ten_toDigits
        omega

/-! ## Significands -/

theorem le_ofDigitChars (start : Nat) (cs : List Char) : start ≤ Nat.ofDigitChars 10 cs start := by
  induction cs generalizing start with
  | nil => exact Nat.le_refl start
  | cons c cs ih =>
      calc
        start ≤ 10 * start + (c.toNat - '0'.toNat) := by omega
        _ ≤ Nat.ofDigitChars 10 cs (10 * start + (c.toNat - '0'.toNat)) := ih _
        _ = Nat.ofDigitChars 10 (c :: cs) start := Nat.ofDigitChars_cons.symm

/-- Digits that stay in bounds are all taken in. -/
theorem significand_eq {start : Nat} {cs : List Char}
    (h : Nat.ofDigitChars 10 cs start < Numeral.significandBound) :
    Numeral.significand start cs = (Nat.ofDigitChars 10 cs start, 0) := by
  induction cs generalizing start with
  | nil => rfl
  | cons c cs ih =>
      rw [Nat.ofDigitChars_cons] at h ⊢
      have hfirst : 10 * start + Numeral.digitValue c < Numeral.significandBound :=
        Nat.lt_of_le_of_lt (le_ofDigitChars _ cs) h
      -- The bound is not passed on the way, as digits only make the number greater.
      rw [Numeral.significand, if_pos hfirst]
      exact ih h

theorem value?_natural {n : Nat} (h : n < Numeral.significandBound) :
    (⟨false, natural n, none, none⟩ : Numeral).value? = some (.natural n) := by
  have hvalue : Nat.ofDigitChars 10 (natural n) 0 = n := by
    rw [natural_eq]
    exact Nat.ofDigitChars_ten_toDigits
  have hwhole : Numeral.significand 0 (natural n) = (n, 0) := by
    rw [significand_eq, hvalue]
    rwa [hvalue]
  simp [Numeral.value?, hwhole]

/-! ## Numerals -/

namespace Reader

theorem Closes.stops {p : Char → Bool} {rest : List Char} (h : Closes rest)
    (hp : p ',' = false ∧ p ']' = false ∧ p '\x7d' = false) : Stops p rest := by
  intro c hc
  rcases h c hc with rfl | rfl | rfl
  · exact hp.1
  · exact hp.2.1
  · exact hp.2.2

theorem digits_append {front rest : List Char} (hfront : ∀ c ∈ front, c.isDigit = true)
    (hrest : Stops Char.isDigit rest) : digits (front ++ rest) = .ok (front, rest) := by
  change Except.ok ((front ++ rest).takeWhile Char.isDigit, (front ++ rest).dropWhile Char.isDigit)
    = _
  rw [takeWhile_append_of_stops hfront hrest, dropWhile_append_of_stops hfront hrest]

theorem wholePart_natural (atEnd : Error) (n : Nat) {rest : List Char}
    (hrest : Stops Char.isDigit rest) :
    wholePart atEnd (natural n ++ rest) = .ok (natural n, rest) := by
  have hdigits : digits (natural n ++ rest) = .ok (natural n, rest) :=
    digits_append (fun c hc => isDigit_of_mem_natural hc) hrest
  have hsome : someDigits atEnd (natural n ++ rest) = .ok (natural n, rest) := by
    rw [someDigits, bind_ok hdigits, if_neg (by simpa using natural_ne_nil n)]
    rfl
  have hzeros : (natural n).head? = some '0' → (natural n).length ≤ 1 := by
    intro hzero
    simp [natural_of_zero_first hzero]
  rw [wholePart, bind_ok hsome, if_neg (by simpa using hzeros)]
  rfl

theorem isBlank_of_isDigit {c : Char} (h : c.isDigit = true) : isBlank c = false := by
  have hne : ∀ blank, blank.isDigit = false → c ≠ blank := by
    rintro blank hblank rfl
    rw [h] at hblank
    cases hblank
  simp [isBlank, hne ' ' rfl, hne '\n' rfl, hne '\t' rfl, hne '\r' rfl]

theorem numeral_natural (atEnd : Error) (n : Nat) {rest : List Char} (hrest : Closes rest) :
    numeral atEnd (natural n ++ rest) = .ok (⟨false, natural n, none, none⟩, rest) := by
  rcases exists_natural_cons n with ⟨c, more, hn, hc⟩
  have hpeek : peek? (natural n ++ rest) = .ok (some c, natural n ++ rest) := by
    rw [hn]
    rfl
  have hplus : ¬ some c = some '-' := by
    intro hminus
    cases hminus
    exact absurd hc (by decide)
  have hwhole := wholePart_natural atEnd n (hrest.stops ⟨rfl, rfl, rfl⟩)
  have hbehind : peek? rest = .ok (rest.head?, rest) := rfl
  have hfraction : fractionPart atEnd rest = .ok (none, rest) := by
    rw [fractionPart, bind_ok hbehind, if_neg (hrest.head_ne (by decide))]
    rfl
  have hexponent : exponentPart atEnd rest = .ok (none, rest) := by
    have hmark : ¬ (rest.head? = some 'e' || rest.head? = some 'E') = true := by
      simp [hrest.head_ne (d := 'e') (by decide), hrest.head_ne (d := 'E') (by decide)]
    rw [exponentPart, bind_ok hbehind, if_neg hmark]
    rfl
  rw [numeral, bind_ok hpeek]
  simp only [if_neg hplus, decide_eq_false hplus]
  rw [bind_ok hwhole, bind_ok hfraction, bind_ok hexponent]
  rfl

theorem number_natural {n : Nat} (hn : n < Numeral.significandBound) {rest : List Char}
    (hrest : Closes rest) : number (natural n ++ rest) = .ok (.natural n, rest) := by
  rw [number, bind_ok (numeral_natural .ended n hrest), value?_natural hn]
  rfl

theorem reads_unsigned {limit n : Nat} (hlimit : limit < Numeral.significandBound)
    (hn : n ≤ limit) (wanted : String) : Reads (unsigned limit wanted) (natural n) n := by
  intro rest hrest
  rcases exists_natural_cons n with ⟨c, more, hc, hdigit⟩
  have hnext : next (natural n ++ rest) = .ok (c, natural n ++ rest) := by
    rw [hc]
    exact next_of_cons (isBlank_of_isDigit hdigit) (more ++ rest)
  have hstart : (c = '-' || c.isDigit) = true := by
    simp [hdigit]
  have hnumber := number_natural (Nat.lt_of_le_of_lt hn hlimit) hrest
  rw [unsigned, bind_ok hnext, if_pos hstart, bind_ok hnumber]
  simp only [if_pos hn]
  rfl

end Reader

end Json

end TokenAgent
