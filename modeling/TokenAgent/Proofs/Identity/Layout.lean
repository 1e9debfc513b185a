import TokenAgent.Proofs.Identity.Canonical

/-!
# The layout of a locator

A locator that names an identity is made up of the parts of the identity and their marks, in
order and with nothing between them, and one that names none has no host or no port where the
layout asks for one.  Both are said here without the functions that cut a locator.

* `Locator.AfterProtocol`, `Locator.AfterUser` — what is left of a text behind its protocol, and
  behind its user;
* `Locator.splitProtocol_eq_iff`, `Locator.splitUser_eq_iff` — this is what is cut off;
* `Locator.PortText` — the ways to write a port;
* `Locator.parse_layout` — which locators name an identity and how it stands in them, and which
  fail for their host or for their port.
-/

namespace TokenAgent

namespace Locator

/-! ## The protocol -/

/-- The first `://` of a text stands behind `word` and in front of `rest`. -/
structure FirstMark (s word rest : List Char) : Prop where
  whole : s = word ++ ':' :: '/' :: '/' :: rest
  first : ∀ word' rest', s = word' ++ ':' :: '/' :: '/' :: rest' → word.length ≤ word'.length

/-- A protocol is a word in front of the first `://`; where no word stands there, all of the text
is left. -/
inductive AfterProtocol (s : List Char) : List Char → List Char → Prop where
  | named {word rest : List Char} (hmark : FirstMark s word rest) (hne : word ≠ [])
      (hword : ∀ c ∈ word, isWordChar c = true) : AfterProtocol s word rest
  | none (h : ∀ word rest, FirstMark s word rest → word = [] ∨ ∃ c ∈ word, isWordChar c = false) :
      AfterProtocol s [] s

section Protocol

variable {s word rest : List Char}

theorem FirstMark.unique {word' rest' : List Char} (h : FirstMark s word rest)
    (h' : FirstMark s word' rest') : word = word' ∧ rest = rest' := by
  have hlength : word.length = word'.length :=
    Nat.le_antisymm (h.first _ _ h'.whole) (h'.first _ _ h.whole)
  rcases List.append_inj (h.whole.symm.trans h'.whole) hlength with ⟨hword, hrest⟩
  exact ⟨hword, by simpa using hrest⟩

/-- A character in front of the text moves its first mark, unless a mark begins with it. -/
theorem firstMark_cons_iff {c : Char} (hc : ∀ rest', c :: s ≠ ':' :: '/' :: '/' :: rest') :
    FirstMark (c :: s) word rest ↔ ∃ later, word = c :: later ∧ FirstMark s later rest := by
  constructor
  · rintro ⟨hwhole, hfirst⟩
    cases word with
    | nil => exact absurd hwhole (hc rest)
    | cons c' later =>
        injection hwhole with hsame hwhole
        subst hsame
        refine ⟨later, rfl, hwhole, ?_⟩
        intro word' rest' h
        have hlater := hfirst (c :: word') rest' (by rw [h]; rfl)
        simpa using hlater
  · rintro ⟨later, rfl, hwhole, hfirst⟩
    refine ⟨by rw [hwhole]; rfl, ?_⟩
    intro word' rest' h
    cases word' with
    | nil => exact absurd h (hc rest')
    | cons c' later' =>
        injection h with _ h
        simpa using hfirst later' rest' h

theorem cutScheme_eq_some_iff : cutScheme s = some (word, rest) ↔ FirstMark s word rest := by
  fun_induction cutScheme s generalizing word rest with
  | case1 =>
      constructor
      · intro h
        cases h
      · rintro ⟨hwhole, _⟩
        simp at hwhole
  | case2 rest' =>
      have hhere : FirstMark (':' :: '/' :: '/' :: rest') [] rest' :=
        ⟨rfl, fun word' _ _ => Nat.zero_le word'.length⟩
      constructor
      · intro h
        cases h
        exact hhere
      · intro h
        rcases h.unique hhere with ⟨rfl, rfl⟩
        rfl
  | case3 c s hc ih =>
      have hnone : ∀ rest', c :: s ≠ ':' :: '/' :: '/' :: rest' := by
        intro rest' h
        injection h with hc' hs
        exact hc rest' hc' hs
      rw [firstMark_cons_iff hnone, Option.map_eq_some_iff]
      constructor
      · rintro ⟨⟨later, rest'⟩, hcut, hparts⟩
        cases hparts
        exact ⟨later, rfl, ih.1 hcut⟩
      · rintro ⟨later, rfl, hmark⟩
        exact ⟨(later, rest), ih.2 hmark, rfl⟩

theorem not_isWord_iff :
    ¬ (!word.isEmpty && word.all isWordChar) = true ↔
      word = [] ∨ ∃ c ∈ word, isWordChar c = false := by
  simp [or_iff_not_imp_left]

theorem AfterProtocol.splitProtocol_eq (h : AfterProtocol s word rest) :
    splitProtocol s = (word, rest) := by
  rw [splitProtocol]
  cases h with
  | named hmark hne hword =>
      have hcheck : (!word.isEmpty && word.all isWordChar) = true := by
        simp [hne, List.all_eq_true.2 hword]
      simp only [cutScheme_eq_some_iff.2 hmark, if_pos hcheck]
  | none h =>
      cases hcut : cutScheme s with
      | none => rfl
      | some parts =>
          have hmark := h parts.1 parts.2 (cutScheme_eq_some_iff.1 hcut)
          simp only [if_neg (not_isWord_iff.2 hmark)]

theorem afterProtocol_splitProtocol (s : List Char) :
    AfterProtocol s (splitProtocol s).1 (splitProtocol s).2 := by
  rw [splitProtocol]
  cases hcut : cutScheme s with
  | none =>
      refine .none fun word rest hmark => ?_
      rw [cutScheme_eq_some_iff.2 hmark] at hcut
      cases hcut
  | some parts =>
      have hmark : FirstMark s parts.1 parts.2 := cutScheme_eq_some_iff.1 hcut
      by_cases hcheck : (!parts.1.isEmpty && parts.1.all isWordChar) = true
      · simp only [if_pos hcheck]
        rw [Bool.and_eq_true_iff, List.all_eq_true] at hcheck
        exact .named hmark (by simpa using hcheck.1) hcheck.2
      · simp only [if_neg hcheck]
        refine .none fun word rest hmark' => ?_
        rcases hmark.unique hmark' with ⟨rfl, _⟩
        exact not_isWord_iff.1 hcheck

theorem splitProtocol_eq_iff : splitProtocol s = (word, rest) ↔ AfterProtocol s word rest := by
  constructor
  · intro h
    simpa only [h] using afterProtocol_splitProtocol s
  · exact AfterProtocol.splitProtocol_eq

end Protocol

/-! ## The user -/

/-- A user ends at the first `@`, if no `/` stands in front of it; where every `@` has a `/` in
front of it, all of the text is left. -/
inductive AfterUser (s : List Char) : List Char → List Char → Prop where
  | named {user rest : List Char} (hwhole : s = user ++ '@' :: rest) (hat : '@' ∉ user)
      (hslash : '/' ∉ user) : AfterUser s user rest
  | none (h : ∀ user rest, s = user ++ '@' :: rest → '/' ∈ user) : AfterUser s [] s

section User

variable {s user rest : List Char}

theorem exists_user_of_mem (h : '@' ∈ s.takeWhile (· ≠ '/')) :
    ∃ user rest, s = user ++ '@' :: rest ∧ '@' ∉ user ∧ '/' ∉ user := by
  have hmem : '@' ∈ s := (List.takeWhile_prefix _).subset h
  rcases List.eq_append_cons_of_mem hmem with ⟨user, rest, rfl, hat⟩
  refine ⟨user, rest, rfl, hat, ?_⟩
  -- The user is all that stands in front of the first sign.
  have hslash := not_mem_takeWhile_of_mem h
  have huser : ∀ c ∈ user, decide (c ≠ '@') = true := by
    intro c hc
    exact decide_eq_true (ne_of_mem_of_not_mem hc hat)
  rw [List.takeWhile_append_of_pos huser] at hslash
  exact fun hin => hslash (List.mem_append_left _ hin)

theorem AfterUser.splitUser_eq (h : AfterUser s user rest) : splitUser s = (user, rest) := by
  cases h with
  | named hwhole hat hslash =>
      rw [hwhole]
      exact splitUser_append hat hslash rest
  | none h =>
      apply splitUser_of_not_mem
      intro hmem
      rcases exists_user_of_mem hmem with ⟨user, rest, hwhole, _, hslash⟩
      exact hslash (h user rest hwhole)

theorem afterUser_splitUser (s : List Char) : AfterUser s (splitUser s).1 (splitUser s).2 := by
  by_cases hmem : '@' ∈ s.takeWhile (· ≠ '/')
  · rcases exists_user_of_mem hmem with ⟨user, rest, rfl, hat, hslash⟩
    rw [splitUser_append hat hslash]
    exact .named rfl hat hslash
  · rw [splitUser_of_not_mem hmem]
    refine .none fun user rest hwhole => ?_
    by_contra hslash
    rw [hwhole] at hmem
    exact hmem (mem_takeWhile_slash hslash rest)

theorem splitUser_eq_iff : splitUser s = (user, rest) ↔ AfterUser s user rest := by
  constructor
  · intro h
    simpa only [h] using afterUser_splitUser s
  · exact AfterUser.splitUser_eq

end User

/-! ## The port -/

/-- The ways to write a port: not at all, or in digits behind a colon.  Digits that spell zero
are another way to write none. -/
inductive PortText : Option UInt16 → List Char → Prop where
  | missing : PortText none []
  | zero {digits : List Char} (hne : digits ≠ []) (hdigits : ∀ c ∈ digits, c.isDigit = true)
      (hvalue : decimalValue digits = 0) : PortText none (':' :: digits)
  | number {digits : List Char} {port : UInt16} (hne : digits ≠ [])
      (hdigits : ∀ c ∈ digits, c.isDigit = true) (hpos : port ≠ 0)
      (hvalue : decimalValue digits = port.toNat) : PortText (some port) (':' :: digits)

section Port

variable {s more digits rest : List Char} {port : Option UInt16}

/-- No port can be made of the digits: there are none, or not only digits, or they spell too
large a number. -/
def NoPort (digits : List Char) : Prop :=
  digits = [] ∨ (∃ c ∈ digits, c.isDigit = false) ∨ 65535 < decimalValue digits

theorem noPort_iff :
    NoPort digits ↔ ¬ (!digits.isEmpty && digits.all Char.isDigit
      && decide (decimalValue digits ≤ 65535)) = true := by
  simp only [NoPort, Bool.and_eq_true, Bool.not_eq_true', List.isEmpty_eq_false_iff,
    List.all_eq_true, decide_eq_true_eq, not_and_or, not_forall, not_not, Nat.not_le,
    Bool.not_eq_true, exists_prop, or_assoc]

theorem splitPort?_colon (hrun : LeadingRun (fun c => decide (c ≠ '/')) more digits rest) :
    splitPort? (':' :: more)
      = if (!digits.isEmpty && digits.all Char.isDigit
            && decide (decimalValue digits ≤ 65535)) = true then
          some (if decimalValue digits = 0 then none
            else some (UInt16.ofNat (decimalValue digits)), rest)
        else none := by
  rcases leadingRun_iff.1 hrun with ⟨rfl, rfl⟩
  rfl

theorem splitPort?_of_noPort (hrun : LeadingRun (fun c => decide (c ≠ '/')) more digits rest)
    (h : NoPort digits) : splitPort? (':' :: more) = none := by
  rw [splitPort?_colon hrun, if_neg (noPort_iff.1 h)]

/-- Text that begins with no colon holds no port, so none that is malformed. -/
theorem splitPort?_eq_none_iff :
    splitPort? s = none ↔ ∃ more digits rest, s = ':' :: more ∧
      LeadingRun (fun c => decide (c ≠ '/')) more digits rest ∧ NoPort digits := by
  constructor
  · intro h
    rcases exists_cons_or_stops ':' s with ⟨more, rfl⟩ | hstops
    · have hrun := leadingRun_iff (p := fun c => decide (c ≠ '/')) (s := more).2 ⟨rfl, rfl⟩
      refine ⟨more, _, _, rfl, hrun, ?_⟩
      rw [splitPort?_colon hrun] at h
      rw [noPort_iff]
      intro hport
      rw [if_pos hport] at h
      cases h
    · rw [splitPort?_of_stops hstops] at h
      cases h
  · rintro ⟨more, digits, rest, rfl, hrun, h⟩
    exact splitPort?_of_noPort hrun h

/-- The digits of a port spell it, unless they spell zero. -/
theorem portText_digits (h : ¬ NoPort digits) :
    PortText (if decimalValue digits = 0 then none else some (UInt16.ofNat (decimalValue digits)))
      (':' :: digits) := by
  simp only [NoPort, not_or, not_exists, not_and, Bool.not_eq_false, Nat.not_lt] at h
  rcases h with ⟨hne, hdigits, hle⟩
  by_cases hzero : decimalValue digits = 0
  · rw [if_pos hzero]
    exact .zero hne hdigits hzero
  · have hvalue : (UInt16.ofNat (decimalValue digits)).toNat = decimalValue digits :=
      UInt16.toNat_ofNat_of_lt' (Nat.lt_succ_of_le hle)
    rw [if_neg hzero]
    refine .number hne hdigits ?_ hvalue.symm
    intro hport
    rw [hport] at hvalue
    exact hzero hvalue.symm

/-- Behind a host, a port that is read stands there as it is written, and a path or nothing is
left. -/
theorem exists_portText (hs : Stops isHostChar s) (h : splitPort? s = some (port, rest)) :
    ∃ text, s = text ++ rest ∧ PortText port text ∧ Stops (fun c => decide (c ≠ '/')) rest := by
  rcases exists_cons_or_stops ':' s with ⟨more, rfl⟩ | hstops
  · have hrun := leadingRun_iff (p := fun c => decide (c ≠ '/')) (s := more).2 ⟨rfl, rfl⟩
    rw [splitPort?_colon hrun] at h
    split at h
    · rename_i hport
      cases h
      refine ⟨_, ?_, portText_digits ?_, hrun.stops⟩
      · rw [List.cons_append, ← hrun.whole]
      · rw [noPort_iff, not_not]
        exact hport
    · cases h
  · rw [splitPort?_of_stops hstops] at h
    cases h
    refine ⟨[], rfl, .missing, ?_⟩
    intro c hc
    -- What ends a host is a colon or a slash, and it is no colon.
    have hhost := hs c hc
    have hcolon := hstops c hc
    simpa [isHostChar, bne, hcolon] using hhost

end Port

/-! ## Locators that name an identity -/

/-- A text is made up of the parts of an identity, each with the mark that sets it off: a
protocol, a user, the host, a port and a path.  A mark may stand there without a user, or without
a path. -/
structure Layout (i : Identity) (s protocolPart userPart portPart pathPart : List Char) : Prop where
  whole : s = protocolPart ++ (userPart ++ (i.host.toList ++ (portPart ++ pathPart)))
  protocol : (protocolPart = [] ∧ i.protocol = "") ∨
    (i.protocol ≠ "" ∧ protocolPart = i.protocol.toList ++ [':', '/', '/'])
  user : (userPart = [] ∧ i.user = "") ∨ userPart = i.user.toList ++ ['@']
  port : PortText i.port portPart
  path : (pathPart = [] ∧ i.path = "") ∨ pathPart = '/' :: i.path.toList

theorem AfterProtocol.exists_part {s word rest : List Char} (h : AfterProtocol s word rest) :
    ∃ part, s = part ++ rest ∧
      ((part = [] ∧ word = []) ∨ (word ≠ [] ∧ part = word ++ [':', '/', '/'])) := by
  cases h with
  | named hmark hne _ =>
      refine ⟨word ++ [':', '/', '/'], ?_, Or.inr ⟨hne, rfl⟩⟩
      rw [hmark.whole, List.append_assoc]
      rfl
  | none _ => exact ⟨[], rfl, Or.inl ⟨rfl, rfl⟩⟩

theorem AfterUser.exists_part {s user rest : List Char} (h : AfterUser s user rest) :
    ∃ part, s = part ++ rest ∧ ((part = [] ∧ user = []) ∨ part = user ++ ['@']) := by
  cases h with
  | named hwhole _ _ =>
      refine ⟨user ++ ['@'], ?_, Or.inr rfl⟩
      rw [hwhole, List.append_assoc]
      rfl
  | none _ => exact ⟨[], rfl, Or.inl ⟨rfl, rfl⟩⟩

theorem pathOf_of_stops {rest : List Char} (h : Stops (fun c => decide (c ≠ '/')) rest) :
    (rest = [] ∧ pathOf rest = []) ∨ rest = '/' :: pathOf rest := by
  cases rest with
  | nil => exact Or.inl ⟨rfl, rfl⟩
  | cons c path =>
      have hc : c = '/' := by
        simpa using h c rfl
      subst hc
      exact Or.inr rfl

theorem Reads.exists_layout {s : List Char} {i : Identity} (h : Reads s i) :
    ∃ protocolPart userPart portPart pathPart,
      Layout i s protocolPart userPart portPart pathPart := by
  cases h with
  | @intro afterProtocol afterUser afterPort _ _ _ hprotocol huser hhost hport =>
      have hrun := leadingRun_iff (p := isHostChar) (s := afterUser).2 ⟨rfl, rfl⟩
      rcases (splitProtocol_eq_iff.1 hprotocol).exists_part with ⟨protocolPart, hs, hprotocol⟩
      rcases (splitUser_eq_iff.1 huser).exists_part with ⟨userPart, hafter, huser⟩
      rcases exists_portText hrun.stops hport with ⟨portPart, hbehind, hport, hpath⟩
      refine ⟨protocolPart, userPart, portPart, afterPort, ?_, ?_, ?_, hport, ?_⟩
      · rw [Identity.ofHost, String.toList_ofList, ← hbehind, ← hrun.whole, ← hafter, ← hs]
      · simpa using hprotocol
      · simpa using huser
      · simpa using pathOf_of_stops hpath

/-! ## Locators that name none -/

/-- What is left of a locator when its protocol and its user are taken away. -/
def HostText (s rest : List Char) : Prop :=
  ∃ protocol afterProtocol user, AfterProtocol s protocol afterProtocol ∧
    AfterUser afterProtocol user rest

theorem exists_hostText (s : List Char) : ∃ rest, HostText s rest :=
  ⟨_, _, _, _, afterProtocol_splitProtocol s, afterUser_splitUser _⟩

section Failures

variable {s : String} {rest : List Char} (h : HostText s.toList rest)

include h

theorem parse_of_missingHost (hhost : rest.takeWhile isHostChar = []) :
    parse s = .error (.missingHost s) := by
  rcases h with ⟨protocol, afterProtocol, user, hprotocol, huser⟩
  simp only [parse, hprotocol.splitProtocol_eq, huser.splitUser_eq, hhost]
  rfl

theorem parse_of_invalidPort (hhost : rest.takeWhile isHostChar ≠ [])
    (hport : splitPort? (rest.dropWhile isHostChar) = none) :
    parse s = .error (.invalidPort s) := by
  rcases h with ⟨protocol, afterProtocol, user, hprotocol, huser⟩
  simp only [parse, hprotocol.splitProtocol_eq, huser.splitUser_eq,
    List.isEmpty_eq_false_iff.2 hhost, hport]
  rfl

theorem exists_parse (hhost : rest.takeWhile isHostChar ≠ [])
    (hport : splitPort? (rest.dropWhile isHostChar) ≠ none) : ∃ i, parse s = .ok i := by
  rcases h with ⟨protocol, afterProtocol, user, hprotocol, huser⟩
  rcases Option.ne_none_iff_exists'.1 hport with ⟨⟨port, afterPort⟩, hport⟩
  exact ⟨_, parse_eq_ok_iff.2 (.intro hprotocol.splitProtocol_eq huser.splitUser_eq hhost hport)⟩

end Failures

/-- A locator has no host, or a host and no port where one is called for, or it names an
identity. -/
theorem parse_cases (s : String) :
    ∃ rest, HostText s.toList rest ∧
      ((rest.takeWhile isHostChar = [] ∧ parse s = .error (.missingHost s)) ∨
        (rest.takeWhile isHostChar ≠ [] ∧ splitPort? (rest.dropWhile isHostChar) = none ∧
          parse s = .error (.invalidPort s)) ∨
        ∃ i, parse s = .ok i) := by
  rcases exists_hostText s.toList with ⟨rest, h⟩
  refine ⟨rest, h, ?_⟩
  by_cases hhost : rest.takeWhile isHostChar = []
  · exact Or.inl ⟨hhost, parse_of_missingHost h hhost⟩
  · by_cases hport : splitPort? (rest.dropWhile isHostChar) = none
    · exact Or.inr (Or.inl ⟨hhost, hport, parse_of_invalidPort h hhost hport⟩)
    · exact Or.inr (Or.inr (exists_parse h hhost hport))

theorem parse_eq_missingHost_iff {s : String} :
    parse s = .error (.missingHost s) ↔
      ∃ rest behind, HostText s.toList rest ∧ LeadingRun isHostChar rest [] behind := by
  constructor
  · intro h
    rcases parse_cases s with ⟨rest, hrest, ⟨hhost, _⟩ | ⟨_, _, hparse⟩ | ⟨i, hparse⟩⟩
    · exact ⟨rest, _, hrest, leadingRun_iff.2 ⟨hhost, rfl⟩⟩
    · rw [hparse] at h
      cases h
    · rw [hparse] at h
      cases h
  · rintro ⟨rest, behind, hrest, hrun⟩
    exact parse_of_missingHost hrest (leadingRun_iff.1 hrun).1

theorem parse_eq_invalidPort_iff {s : String} :
    parse s = .error (.invalidPort s) ↔
      ∃ rest host more digits behind, HostText s.toList rest ∧
        LeadingRun isHostChar rest host (':' :: more) ∧ host ≠ [] ∧
        LeadingRun (fun c => decide (c ≠ '/')) more digits behind ∧ NoPort digits := by
  constructor
  · intro h
    rcases parse_cases s with ⟨rest, hrest, ⟨_, hparse⟩ | ⟨hhost, hport, _⟩ | ⟨i, hparse⟩⟩
    · rw [hparse] at h
      cases h
    · rcases splitPort?_eq_none_iff.1 hport with ⟨more, digits, behind, hmore, hrun, hnone⟩
      exact ⟨rest, _, more, digits, behind, hrest, leadingRun_iff.2 ⟨rfl, hmore⟩, hhost, hrun,
        hnone⟩
    · rw [hparse] at h
      cases h
  · rintro ⟨rest, host, more, digits, behind, hrest, hhost, hne, hrun, hnone⟩
    rcases leadingRun_iff.1 hhost with ⟨rfl, hmore⟩
    exact parse_of_invalidPort hrest hne (splitPort?_eq_none_iff.2 ⟨more, _, _, hmore, hrun, hnone⟩)

/-- A locator that names an identity is made up of its parts and their marks and of nothing else:
the protocol is a word or missing, no user holds `@` or a slash, the host is there and holds
neither colon nor slash, and the port is not zero.  It names none for two reasons only.  Behind
its protocol and its user, the text up to the next colon or slash is empty: there is no host.  Or
this text is followed by a colon, and no port is between the colon and the next slash. -/
theorem parse_layout (s : String) :
    (∀ i, parse s = .ok i → i.Spelled ∧
      ∃ protocolPart userPart portPart pathPart,
        Layout i s.toList protocolPart userPart portPart pathPart) ∧
    (parse s = .error (.missingHost s) ↔
      ∃ rest behind, HostText s.toList rest ∧ LeadingRun isHostChar rest [] behind) ∧
    (parse s = .error (.invalidPort s) ↔
      ∃ rest host more digits behind, HostText s.toList rest ∧
        LeadingRun isHostChar rest host (':' :: more) ∧ host ≠ [] ∧
        LeadingRun (fun c => decide (c ≠ '/')) more digits behind ∧
        (digits = [] ∨ (∃ c ∈ digits, c.isDigit = false) ∨ 65535 < decimalValue digits)) ∧
    ∀ e, parse s = .error e → e = .missingHost s ∨ e = .invalidPort s := by
  refine ⟨?_, parse_eq_missingHost_iff, parse_eq_invalidPort_iff, ?_⟩
  · intro i h
    exact ⟨spelled_of_parse h, (parse_eq_ok_iff.1 h).exists_layout⟩
  · intro e h
    rcases parse_cases s with ⟨_, _, ⟨_, hparse⟩ | ⟨_, _, hparse⟩ | ⟨i, hparse⟩⟩
    · rw [hparse] at h
      cases h
      exact Or.inl rfl
    · rw [hparse] at h
      cases h
      exact Or.inr rfl
    · rw [hparse] at h
      cases h

/-- A sign behind a slash ends no user, and the text in front of the first mark is no word. -/
example : parse "a-b/c@d://x:0" = .ok { Identity.ofHost "a-b" with path := "c@d://x:0" } := by
  decide +kernel

end Locator

end TokenAgent
