import TokenAgent.Proofs.Bytes
import TokenAgent.Text.Base64

/-!
# Base64 read back

A reader of the standard alphabet.  It takes groups of four characters, each of which stands for
three bytes; the last group may be padded, and then the bits that no byte has room for have to be
zero.  So the reader accepts what is written and nothing else.

* `Base64.value?` — the value of a character, by the ranges of the alphabet;
* `Base64.decode?_eq_some_iff` — a text is read as some bytes exactly if it is their written form.
-/

namespace TokenAgent

namespace Base64

variable {n : Nat} {c : Char} {bs : Bytes} {text : String}

/-! ## Digits -/

/-- The value of a character of the standard alphabet. -/
def value? (c : Char) : Option Nat :=
  if 'A' ≤ c ∧ c ≤ 'Z' then some (c.toNat - 65)
  else if 'a' ≤ c ∧ c ≤ 'z' then some (c.toNat - 71)
  else if '0' ≤ c ∧ c ≤ '9' then some (c.toNat + 4)
  else if c = '+' then some 62
  else if c = '/' then some 63
  else none

theorem toNat_digit (h : n < 64) :
    (digit n).toNat = if n < 26 then n + 65 else if n < 52 then n + 71
      else if n < 62 then n - 4 else if n = 62 then 43 else 47 := by
  revert h
  revert n
  decide +kernel

theorem value?_digit (h : n < 64) : value? (digit n) = some n := by
  revert h
  revert n
  decide +kernel

/-- Only digits have a value, each its own. -/
theorem digit_of_value? (h : value? c = some n) : n < 64 ∧ digit n = c := by
  suffices hcode : n < 64 ∧ (digit n).toNat = c.toNat from ⟨hcode.1, Char.toNat_inj.1 hcode.2⟩
  rw [value?] at h
  split at h
  · rename_i hrange
    have hupper : 65 ≤ c.toNat ∧ c.toNat ≤ 90 := hrange
    cases h
    have hn : c.toNat - 65 < 64 := by omega
    refine ⟨hn, ?_⟩
    rw [toNat_digit hn, if_pos (by omega)]
    omega
  split at h
  · rename_i hrange
    have hlower : 97 ≤ c.toNat ∧ c.toNat ≤ 122 := hrange
    cases h
    have hn : c.toNat - 71 < 64 := by omega
    refine ⟨hn, ?_⟩
    rw [toNat_digit hn, if_neg (by omega), if_pos (by omega)]
    omega
  split at h
  · rename_i hrange
    have hnumeral : 48 ≤ c.toNat ∧ c.toNat ≤ 57 := hrange
    cases h
    have hn : c.toNat + 4 < 64 := by omega
    refine ⟨hn, ?_⟩
    rw [toNat_digit hn, if_neg (by omega), if_neg (by omega), if_pos (by omega)]
    omega
  split at h
  · rename_i hplus
    cases h
    subst hplus
    exact ⟨by decide, rfl⟩
  split at h
  · rename_i hslash
    cases h
    subst hslash
    exact ⟨by decide, rfl⟩
  · cases h

theorem value?_eq_some_iff : value? c = some n ↔ n < 64 ∧ digit n = c := by
  constructor
  · exact digit_of_value?
  · rintro ⟨hn, rfl⟩
    exact value?_digit hn

theorem digit_ne_of_value? (hc : value? c = none) (h : n < 64) : digit n ≠ c := by
  rintro rfl
  rw [value?_digit h] at hc
  cases hc

theorem digit_ne_padding (n : Nat) : digit (n % 64) ≠ '=' :=
  digit_ne_of_value? (by decide) (Nat.mod_lt n (by decide))

/-! ## Numbers -/

/-- A number in a fixed count of digits, most significant first. -/
def spell : (count : Nat) → (n : Nat) → List Char
  | 0, _ => []
  | count + 1, n => spell count (n / 64) ++ [digit (n % 64)]

/-- The number that digits spell, most significant first. -/
def number? (cs : List Char) : Option Nat :=
  cs.foldlM (fun n c => (value? c).map (64 * n + ·)) 0

@[simp] theorem length_spell (count n : Nat) : (spell count n).length = count := by
  induction count generalizing n with
  | zero => rfl
  | succ count ih => simp [spell, ih]

theorem not_mem_spell (hc : value? c = none) (count n : Nat) : c ∉ spell count n := by
  induction count generalizing n with
  | zero => exact List.not_mem_nil
  | succ count ih =>
      rw [spell, List.mem_append, List.mem_singleton]
      rintro (hfront | hlast)
      · exact ih (n / 64) hfront
      · exact digit_ne_of_value? hc (Nat.mod_lt n (by decide)) hlast.symm

theorem number?_concat (cs : List Char) (c : Char) :
    number? (cs ++ [c]) = some n ↔
      ∃ m v, number? cs = some m ∧ value? c = some v ∧ 64 * m + v = n := by
  rw [number?, List.foldlM_append, Option.bind_eq_bind, Option.bind_eq_some_iff]
  simp [number?]

theorem number?_eq_some_iff {cs : List Char} :
    number? cs = some n ↔ n < 64 ^ cs.length ∧ cs = spell cs.length n := by
  -- The last digit is the lowest one, so the induction is on the last digit.
  induction cs using List.reverseRecOn generalizing n with
  | nil =>
      simp [number?, spell, eq_comm]
  | append_singleton cs c ih =>
      rw [number?_concat, List.length_append, List.length_singleton, Nat.pow_succ, spell]
      constructor
      · rintro ⟨m, v, hm, hv, rfl⟩
        rcases ih.1 hm with ⟨hfits, hcs⟩
        rcases value?_eq_some_iff.1 hv with ⟨hlast, rfl⟩
        have hfront : (64 * m + v) / 64 = m := by omega
        have hback : (64 * m + v) % 64 = v := by omega
        rw [hfront, hback, ← hcs]
        exact ⟨by omega, rfl⟩
      · rintro ⟨hfits, hwhole⟩
        rcases List.append_inj' hwhole rfl with ⟨hcs, hlast⟩
        have hc : c = digit (n % 64) := by simpa using hlast
        refine ⟨n / 64, n % 64, ih.2 ⟨by omega, hcs⟩, ?_, by omega⟩
        exact value?_eq_some_iff.2 ⟨Nat.mod_lt n (by decide), hc.symm⟩

/-! ## Groups -/

/-- One byte less than there are characters.  The bits that are left over have to be zero. -/
def group? (cs : List Char) : Option Bytes := do
  let n ← number? cs
  let left := 4 ^ (4 - cs.length)
  if n % left = 0 then some (Bytes.bigEndian (cs.length - 1) (n / left)) else none

/-- A group is the number of its bytes, behind which there are two bits for each character that
is missing. -/
theorem group?_eq_some_iff {cs : List Char} (hlow : 1 ≤ cs.length) (hhigh : cs.length ≤ 4) :
    group? cs = some bs ↔ bs.length + 1 = cs.length ∧
      cs = spell cs.length (Bytes.ofBigEndian bs * 4 ^ (4 - cs.length)) := by
  have hroom : ∀ k ≤ 4, 1 ≤ k → 64 ^ k = 256 ^ (k - 1) * 4 ^ (4 - k) := by decide
  have hbits := hroom cs.length hhigh hlow
  have hleft : 0 < 4 ^ (4 - cs.length) := Nat.pow_pos (by decide)
  rw [group?, Option.bind_eq_bind, Option.bind_eq_some_iff]
  constructor
  · rintro ⟨n, hn, hbs⟩
    rcases number?_eq_some_iff.1 hn with ⟨hfits, hcs⟩
    rw [hbits] at hfits
    simp only at hbs
    split at hbs
    · rename_i hzero
      cases hbs
      have hvalue : n / 4 ^ (4 - cs.length) < 256 ^ (cs.length - 1) :=
        (Nat.div_lt_iff_lt_mul hleft).2 hfits
      rw [Bytes.length_bigEndian, Bytes.ofBigEndian_bigEndian hvalue,
        Nat.div_mul_cancel (Nat.dvd_of_mod_eq_zero hzero)]
      exact ⟨Nat.sub_add_cancel hlow, hcs⟩
    · cases hbs
  · rintro ⟨hlength, hcs⟩
    have hsize : cs.length - 1 = bs.length := by omega
    have hfits : Bytes.ofBigEndian bs * 4 ^ (4 - cs.length) < 64 ^ cs.length := by
      rw [hbits, hsize]
      exact Nat.mul_lt_mul_of_pos_right (Bytes.ofBigEndian_lt bs) hleft
    refine ⟨_, number?_eq_some_iff.2 ⟨hfits, hcs⟩, ?_⟩
    simp only [Nat.mul_mod_left, if_true, Nat.mul_div_cancel _ hleft, hsize,
      Bytes.bigEndian_ofBigEndian]

/-! ## Texts -/

/-- The bytes that characters stand for, the last group padded to four of them. -/
def decodeChars? : List Char → Option Bytes
  | [] => some []
  | a :: b :: c :: d :: rest =>
      if d ≠ '=' then do return (← group? [a, b, c, d]) ++ (← decodeChars? rest)
      else if rest ≠ [] then none
      else if c ≠ '=' then group? [a, b, c]
      else group? [a, b]
  | _ => none

def decode? (text : String) : Option Bytes :=
  decodeChars? text.toList

/-! ### One group at a time -/

theorem encodeChars_one (a : UInt8) :
    encodeChars [a] = spell 2 (Bytes.ofBigEndian [a] * 4 ^ 2) ++ ['=', '='] := by
  have ha : a.toNat < 256 := a.toNat_lt
  have hfirst : a.toNat * 65536 / 262144 = a.toNat * 16 / 64 % 64 := by omega
  have hsecond : a.toNat * 65536 / 4096 % 64 = a.toNat * 16 % 64 := by omega
  simp [encodeChars, spell, Bytes.ofBigEndian, hfirst, hsecond]

theorem encodeChars_two (a b : UInt8) :
    encodeChars [a, b] = spell 3 (Bytes.ofBigEndian [a, b] * 4 ^ 1) ++ ['='] := by
  have ha : a.toNat < 256 := a.toNat_lt
  have hb : b.toNat < 256 := b.toNat_lt
  have hfirst : (a.toNat * 65536 + b.toNat * 256) / 262144
      = (256 * a.toNat + b.toNat) * 4 / 64 / 64 % 64 := by omega
  have hsecond : (a.toNat * 65536 + b.toNat * 256) / 4096 % 64
      = (256 * a.toNat + b.toNat) * 4 / 64 % 64 := by omega
  have hthird : (a.toNat * 65536 + b.toNat * 256) / 64 % 64
      = (256 * a.toNat + b.toNat) * 4 % 64 := by omega
  simp [encodeChars, spell, Bytes.ofBigEndian, hfirst, hsecond, hthird]

theorem encodeChars_three (a b c : UInt8) (rest : Bytes) :
    encodeChars (a :: b :: c :: rest)
      = spell 4 (Bytes.ofBigEndian [a, b, c] * 4 ^ 0) ++ encodeChars rest := by
  have ha : a.toNat < 256 := a.toNat_lt
  have hb : b.toNat < 256 := b.toNat_lt
  have hc : c.toNat < 256 := c.toNat_lt
  have hnumber : a.toNat * 65536 + b.toNat * 256 + c.toNat
      = 256 * (256 * a.toNat + b.toNat) + c.toNat := by omega
  have hfirst : (256 * (256 * a.toNat + b.toNat) + c.toNat) / 262144
      = (256 * (256 * a.toNat + b.toNat) + c.toNat) / 64 / 64 / 64 % 64 := by omega
  have hsecond : (256 * (256 * a.toNat + b.toNat) + c.toNat) / 4096 % 64
      = (256 * (256 * a.toNat + b.toNat) + c.toNat) / 64 / 64 % 64 := by omega
  simp [encodeChars, spell, Bytes.ofBigEndian, hnumber, hfirst, hsecond]

theorem decodeChars?_spell_two (n : Nat) :
    decodeChars? (spell 2 n ++ ['=', '=']) = group? (spell 2 n) := by
  simp [spell, decodeChars?]

theorem decodeChars?_spell_three (n : Nat) :
    decodeChars? (spell 3 n ++ ['=']) = group? (spell 3 n) := by
  simp [spell, decodeChars?, digit_ne_padding]

theorem decodeChars?_spell_four (n : Nat) (rest : List Char) :
    decodeChars? (spell 4 n ++ rest)
      = do return (← group? (spell 4 n)) ++ (← decodeChars? rest) := by
  simp [spell, decodeChars?, digit_ne_padding]

theorem group?_spell {count : Nat} (hlow : 1 ≤ count) (hhigh : count ≤ 4)
    (hlength : bs.length + 1 = count) :
    group? (spell count (Bytes.ofBigEndian bs * 4 ^ (4 - count))) = some bs := by
  rw [group?_eq_some_iff (by simpa using hlow) (by simpa using hhigh), length_spell]
  exact ⟨hlength, rfl⟩

/-! ### Both directions -/

/-- What is written is read back. -/
theorem decodeChars?_encodeChars (bs : Bytes) : decodeChars? (encodeChars bs) = some bs := by
  induction bs using encodeChars.induct with
  | case1 => rfl
  | case2 a =>
      rw [encodeChars_one, decodeChars?_spell_two]
      exact group?_spell (by decide) (by decide) rfl
  | case3 a b =>
      rw [encodeChars_two, decodeChars?_spell_three]
      exact group?_spell (by decide) (by decide) rfl
  | case4 a b c rest ih =>
      have hgroup : group? (spell 4 (Bytes.ofBigEndian [a, b, c] * 4 ^ 0)) = some [a, b, c] :=
        group?_spell (by decide) (by decide) rfl
      rw [encodeChars_three, decodeChars?_spell_four, hgroup, ih]
      rfl

/-- What is read was written. -/
theorem encodeChars_of_decodeChars? {cs : List Char} (h : decodeChars? cs = some bs) :
    encodeChars bs = cs := by
  fun_induction decodeChars? cs generalizing bs with
  | case1 =>
      cases h
      rfl
  | case2 a b c d rest hd ih =>
      rcases Option.bind_eq_some_iff.1 h with ⟨front, hfront, hbehind⟩
      rcases Option.bind_eq_some_iff.1 hbehind with ⟨behind, hrest, hpure⟩
      cases hpure
      rcases (group?_eq_some_iff (by simp) (by simp)).1 hfront with ⟨hlength, hspell⟩
      rcases List.length_eq_three.1 (Nat.succ.inj hlength) with ⟨x, y, z, rfl⟩
      calc
        encodeChars ([x, y, z] ++ behind)
            = spell 4 (Bytes.ofBigEndian [x, y, z] * 4 ^ 0) ++ encodeChars behind :=
              encodeChars_three x y z behind
        _ = [a, b, c, d] ++ rest := by rw [ih hrest, hspell]; rfl
  | case3 a b c d rest hd hmore => cases h
  | case4 a b c d rest hd hend hc =>
      rcases (group?_eq_some_iff (by simp) (by simp)).1 h with ⟨hlength, hspell⟩
      rcases List.length_eq_two.1 (Nat.succ.inj hlength) with ⟨x, y, rfl⟩
      have hpadding : d = '=' := not_not.1 hd
      have hrest : rest = [] := not_not.1 hend
      calc
        encodeChars [x, y] = spell 3 (Bytes.ofBigEndian [x, y] * 4 ^ 1) ++ ['='] :=
              encodeChars_two x y
        _ = [a, b, c] ++ ['='] := by rw [hspell]; rfl
        _ = a :: b :: c :: d :: rest := by rw [hpadding, hrest]; rfl
  | case5 a b c d rest hd hend hc =>
      rcases (group?_eq_some_iff (by simp) (by simp)).1 h with ⟨hlength, hspell⟩
      rcases List.length_eq_one_iff.1 (Nat.succ.inj hlength) with ⟨x, rfl⟩
      have hpadding : d = '=' := not_not.1 hd
      have hrest : rest = [] := not_not.1 hend
      have hpadding' : c = '=' := not_not.1 hc
      calc
        encodeChars [x] = spell 2 (Bytes.ofBigEndian [x] * 4 ^ 2) ++ ['=', '='] :=
              encodeChars_one x
        _ = [a, b] ++ ['=', '='] := by rw [hspell]; rfl
        _ = a :: b :: c :: d :: rest := by rw [hpadding, hpadding', hrest]; rfl
  | case6 => cases h

/-- A text is read as some bytes if and only if it is what is written for them. -/
theorem decode?_eq_some_iff : decode? text = some bs ↔ text = encode bs := by
  rw [decode?, encode, ← String.toList_inj, String.toList_ofList]
  constructor
  · intro h
    exact (encodeChars_of_decodeChars? h).symm
  · intro h
    rw [h]
    exact decodeChars?_encodeChars bs

theorem encode_injective : Function.Injective encode := by
  intro bs bs' h
  have hread := decode?_eq_some_iff.2 h
  rw [decode?_eq_some_iff.2 rfl] at hread
  exact Option.some.inj hread

/-- A character that is neither a digit nor padding is not written. -/
theorem not_mem_encode (hc : value? c = none) (hpadding : c ≠ '=') (bs : Bytes) :
    c ∉ (encode bs).toList := by
  rw [encode, String.toList_ofList]
  induction bs using encodeChars.induct with
  | case1 => exact List.not_mem_nil
  | case2 a =>
      rw [encodeChars_one]
      simp [not_mem_spell hc, hpadding]
  | case3 a b =>
      rw [encodeChars_two]
      simp [not_mem_spell hc, hpadding]
  | case4 a b c rest ih =>
      rw [encodeChars_three]
      simp [not_mem_spell hc, ih]

/-- Four characters for every three bytes that were begun. -/
theorem length_encode (bs : Bytes) : (encode bs).length = 4 * ((bs.length + 2) / 3) := by
  rw [encode, String.length_ofList]
  induction bs using encodeChars.induct with
  | case1 => rfl
  | case2 a => simp [encodeChars_one]
  | case3 a b => simp [encodeChars_two]
  | case4 a b c rest ih =>
      rw [encodeChars_three, List.length_append, length_spell, ih]
      simp only [List.length_cons]
      omega

/-- Each length modulo three, and padding that is missing, superfluous or hides a bit. -/
example : [decode? "", decode? "AQ==", decode? "AQI=", decode? "AQID", decode? "AQ=",
    decode? "AQID=", decode? "AR=="]
      = [some [], some [1], some [1, 2], some [1, 2, 3], none, none, none] := by decide +kernel

end Base64

end TokenAgent
