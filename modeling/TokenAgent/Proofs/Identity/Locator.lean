import TokenAgent.Identity.Locator
import TokenAgent.Proofs.Runs

/-!
# Parts of a locator

Each part of a locator ends where the next one begins, so a part that is written without the
characters that end it is read back, whatever follows.

* `Locator.splitProtocol_append`, `Locator.splitUser_append`, `Locator.splitPort?_append` — parts
  that are read back;
* `Locator.isWordChar_of_mem_splitProtocol`, `Locator.not_mem_splitUser`,
  `Locator.splitPort?_ne_zero` — what a part that was read is made of;
* `Locator.parse_eq_ok_iff` — a locator names an identity if the parts are read one by one.
-/

namespace TokenAgent

namespace Locator

/-- Of two characters only one can come first. -/
theorem not_mem_takeWhile_of_mem {a b : Char} {s : List Char} (h : a ∈ s.takeWhile (· ≠ b)) :
    b ∉ s.takeWhile (· ≠ a) := by
  induction s with
  | nil => simp
  | cons c s ih =>
      by_cases hb : c = b
      · simp [hb] at h
      · by_cases ha : c = a
        · simp [ha]
        · have hlater : a ∈ s.takeWhile (· ≠ b) := by
            simpa [hb, Ne.symm ha] using h
          simpa [ha, Ne.symm hb] using ih hlater

/-! ## The protocol -/

theorem cutScheme_append {word : List Char} (h : ':' ∉ word) (rest : List Char) :
    cutScheme (word ++ ':' :: '/' :: '/' :: rest) = some (word, rest) := by
  induction word with
  | nil => rfl
  | cons c word ih =>
      -- The first character is no colon, so the mark is looked for behind it.
      have hword : ':' ∉ word := fun hmem => h (List.mem_cons_of_mem c hmem)
      have hc : c ≠ ':' := fun hc => h (List.mem_cons.2 (Or.inl hc.symm))
      rw [List.cons_append, cutScheme, ih hword]
      · rfl
      · intro more hcolon
        exact absurd hcolon hc

theorem splitProtocol_append {word : List Char} (hne : word ≠ [])
    (hword : ∀ c ∈ word, isWordChar c = true) (rest : List Char) :
    splitProtocol (word ++ ':' :: '/' :: '/' :: rest) = (word, rest) := by
  have hcolon : ':' ∉ word := by
    intro hmem
    have hnot : isWordChar ':' = false := by decide
    rw [hword ':' hmem] at hnot
    cases hnot
  have hcheck : (!word.isEmpty && word.all isWordChar) = true := by
    simp [hne, List.all_eq_true.2 hword]
  rw [splitProtocol, cutScheme_append hcolon rest]
  exact if_pos hcheck

theorem isWordChar_of_mem_splitProtocol {s : List Char} {c : Char} (h : c ∈ (splitProtocol s).1) :
    isWordChar c = true := by
  rw [splitProtocol] at h
  split at h
  · rename_i word rest hcut
    by_cases hcheck : (!word.isEmpty && word.all isWordChar) = true
    · rw [if_pos hcheck] at h
      exact List.all_eq_true.1 (Bool.and_eq_true_iff.1 hcheck).2 c h
    · rw [if_neg hcheck] at h
      cases h
  · cases h

/-! ## The user -/

/-- A sign with no slash in front of it comes before every slash. -/
theorem mem_takeWhile_slash {user : List Char} (hslash : '/' ∉ user) (rest : List Char) :
    '@' ∈ (user ++ '@' :: rest).takeWhile (· ≠ '/') := by
  have hauthority : ∀ c ∈ user, decide (c ≠ '/') = true := by
    intro c hmem
    exact decide_eq_true (ne_of_mem_of_not_mem hmem hslash)
  rw [List.takeWhile_append_of_pos hauthority]
  simp

theorem splitUser_append {user : List Char} (hat : '@' ∉ user) (hslash : '/' ∉ user)
    (rest : List Char) : splitUser (user ++ '@' :: rest) = (user, rest) := by
  have huser : ∀ c ∈ user, decide (c ≠ '@') = true := by
    intro c hmem
    exact decide_eq_true (ne_of_mem_of_not_mem hmem hat)
  have hstops : Stops (fun c => decide (c ≠ '@')) ('@' :: rest) := by
    intro c hc
    cases hc
    rfl
  have hfound : ((user ++ '@' :: rest).takeWhile (· ≠ '/')).contains '@' = true :=
    List.contains_iff_mem.2 (mem_takeWhile_slash hslash rest)
  rw [splitUser, if_pos hfound, takeWhile_append_of_stops huser hstops,
    dropWhile_append_of_stops huser hstops]
  rfl

theorem splitUser_of_not_mem {s : List Char} (h : '@' ∉ s.takeWhile (· ≠ '/')) :
    splitUser s = ([], s) := by
  rw [splitUser, if_neg]
  simpa using h

theorem not_mem_splitUser (s : List Char) : '@' ∉ (splitUser s).1 ∧ '/' ∉ (splitUser s).1 := by
  rw [splitUser]
  split
  · -- The sign comes before any slash, and the user before the sign.
    rename_i hfound
    refine ⟨?_, not_mem_takeWhile_of_mem (by simpa using hfound)⟩
    intro hmem
    simpa using List.mem_takeWhile_imp hmem
  · simp

/-! ## The host -/

theorem isHostChar_iff {c : Char} : isHostChar c = true ↔ c ≠ ':' ∧ c ≠ '/' := by
  simp [isHostChar]

/-! ## The port -/

theorem decimalValue_toDigits (n : Nat) : decimalValue (Nat.toDigits 10 n) = n :=
  Nat.ofDigitChars_ten_toDigits

theorem splitPort?_of_stops {s : List Char} (h : Stops (· == ':') s) :
    splitPort? s = some (none, s) := by
  cases s with
  | nil => rfl
  | cons c rest =>
      have hc : c ≠ ':' := by
        simpa using h c rfl
      rw [splitPort?]
      intro more hmore
      injection hmore with hcolon
      exact absurd hcolon hc

theorem splitPort?_append {port : UInt16} (hport : port ≠ 0) {rest : List Char}
    (hrest : Stops (fun c => decide (c ≠ '/')) rest) :
    splitPort? (':' :: (Nat.toDigits 10 port.toNat ++ rest)) = some (some port, rest) := by
  have hdigit : ∀ c ∈ Nat.toDigits 10 port.toNat, c.isDigit = true := by
    intro c hmem
    exact Nat.isDigit_of_mem_toDigits (by decide) (by decide) hmem
  have hdigits : ∀ c ∈ Nat.toDigits 10 port.toNat, decide (c ≠ '/') = true := by
    intro c hmem
    apply decide_eq_true
    rintro rfl
    exact absurd (hdigit '/' hmem) (by decide)
  have hvalue : port.toNat ≠ 0 := fun hzero => hport (UInt16.toNat_inj.1 hzero)
  have hle : port.toNat ≤ 65535 := Nat.le_of_lt_succ port.toNat_lt
  have hcheck : (!(Nat.toDigits 10 port.toNat).isEmpty
      && (Nat.toDigits 10 port.toNat).all Char.isDigit && decide (port.toNat ≤ 65535)) = true := by
    simp [Nat.toDigits_ne_nil, List.all_eq_true.2 hdigit, hle]
  simp only [splitPort?, takeWhile_append_of_stops hdigits hrest,
    dropWhile_append_of_stops hdigits hrest, decimalValue_toDigits, if_pos hcheck, if_neg hvalue,
    UInt16.ofNat_toNat]

/-- A port of zero is read as none. -/
theorem splitPort?_ne_zero {s rest : List Char} {port : Option UInt16}
    (h : splitPort? s = some (port, rest)) : port ≠ some 0 := by
  have hzero : ∀ value ≤ 65535,
      (if value = 0 then none else some (UInt16.ofNat value)) ≠ some 0 := by
    intro value hle
    by_cases hvalue : value = 0
    · simp [hvalue]
    · rw [if_neg hvalue]
      intro hsome
      have hnat := congrArg UInt16.toNat (Option.some.inj hsome)
      rw [UInt16.toNat_ofNat_of_lt' (Nat.lt_succ_of_le hle)] at hnat
      exact hvalue hnat
  unfold splitPort? at h
  split at h
  · -- A port that is read passed the check of its size, so nothing of it is cut off.
    simp only [Option.ite_none_right_eq_some, Option.some.injEq, Prod.mk.injEq,
      Bool.and_eq_true, decide_eq_true_eq] at h
    rcases h with ⟨⟨_, hle⟩, hport, _⟩
    rw [← hport]
    exact hzero _ hle
  · injection h with h
    injection h with h
    rw [← h]
    simp

/-! ## The whole locator -/

/-- The parts of a locator, read one after the other. -/
inductive Reads : List Char → Identity → Prop where
  | intro {s afterProtocol afterUser afterPort protocol user : List Char} {port : Option UInt16}
      (hprotocol : splitProtocol s = (protocol, afterProtocol))
      (huser : splitUser afterProtocol = (user, afterUser))
      (hhost : afterUser.takeWhile isHostChar ≠ [])
      (hport : splitPort? (afterUser.dropWhile isHostChar) = some (port, afterPort)) :
      Reads s { Identity.ofHost (String.ofList (afterUser.takeWhile isHostChar)) with
        protocol := String.ofList protocol
        user := String.ofList user
        port := port
        path := String.ofList (pathOf afterPort) }

theorem parse_eq_ok_iff {s : String} {i : Identity} : parse s = .ok i ↔ Reads s.toList i := by
  constructor
  · intro h
    rw [parse] at h
    rcases hprotocol : splitProtocol s.toList with ⟨protocol, afterProtocol⟩
    rcases huser : splitUser afterProtocol with ⟨user, afterUser⟩
    simp only [hprotocol, huser] at h
    by_cases hhost : afterUser.takeWhile isHostChar = []
    · simp [hhost] at h
    · rw [if_neg (by simpa using hhost)] at h
      cases hport : splitPort? (afterUser.dropWhile isHostChar) with
      | none =>
          rw [hport] at h
          cases h
      | some parts =>
          rw [hport] at h
          injection h with h
          rw [← h]
          exact .intro hprotocol huser hhost hport
  · intro h
    generalize hs : s.toList = text at h
    cases h with
    | intro hprotocol huser hhost hport =>
        have hnonempty := List.isEmpty_eq_false_iff.2 hhost
        simp only [parse, hs, hprotocol, huser, hnonempty, hport]
        rfl

end Locator

end TokenAgent
