import TokenAgent.Json.Reader

/-!
# Strings of JSON

* `Json.encode` — a text as a string of JSON;
* `Reader.text` — the text behind an opening quote.  Surrogate escapes have to come in pairs;
* `Reader.skipText` — the same, where the text does not matter and lone surrogates may stand.
-/

namespace TokenAgent

namespace Json

/-! ## Writing -/

/-- One character inside a string.  Quote, backslash and the controls are escaped, those with a
letter of their own by it. -/
def encodeChar (c : Char) : List Char :=
  match c with
  | '"' => ['\\', '"']
  | '\\' => ['\\', '\\']
  | '\x08' => ['\\', 'b']
  | '\x0c' => ['\\', 'f']
  | '\n' => ['\\', 'n']
  | '\r' => ['\\', 'r']
  | '\t' => ['\\', 't']
  | c => if c.toNat < 0x20 then '\\' :: 'u' :: (Hex.lower 4 c.toNat).toList else [c]

/-- A text as a string of JSON. -/
def encode (s : String) : List Char :=
  '"' :: s.toList.flatMap encodeChar ++ ['"']

/-! ## Reading -/

/-- The value of a hexadecimal digit. -/
def hexValue? (c : Char) : Option Nat :=
  if '0' ≤ c ∧ c ≤ '9' then some (c.toNat - '0'.toNat)
  else if 'a' ≤ c ∧ c ≤ 'f' then some (c.toNat - 'a'.toNat + 10)
  else if 'A' ≤ c ∧ c ≤ 'F' then some (c.toNat - 'A'.toNat + 10)
  else none

/-- The four digits of an escape.  A text with fewer than four bytes left has ended. -/
def hexEscape : List Char → Except Error (Nat × List Char)
  | a :: b :: c :: d :: rest =>
      match hexValue? a, hexValue? b, hexValue? c, hexValue? d with
      | some a, some b, some c, some d => .ok (((a * 16 + b) * 16 + c) * 16 + d, rest)
      | _, _, _, _ => .error .malformed
  | rest => .error (if (String.ofList rest).utf8ByteSize < 4 then .ended else .malformed)

def isHighSurrogate (n : Nat) : Bool := 0xD800 ≤ n && n ≤ 0xDBFF

def isLowSurrogate (n : Nat) : Bool := 0xDC00 ≤ n && n ≤ 0xDFFF

/-- The character of an escape by number, behind its `u`.  A high surrogate calls for a low one
right behind it. -/
def numberEscape (text : List Char) : Except Error (Char × List Char) := do
  let (n, rest) ← hexEscape text
  if isLowSurrogate n then throw .malformed
  else if isHighSurrogate n then
    match rest with
    | [] => throw .ended
    | ['\\'] => throw .ended
    | '\\' :: 'u' :: rest =>
        let (low, rest) ← hexEscape rest
        if isLowSurrogate low then
          return (Char.ofNat ((n - 0xD800) * 0x400 + (low - 0xDC00) + 0x10000), rest)
        else throw .malformed
    | _ => throw .malformed
  else return (Char.ofNat n, rest)

/-- The character that a letter stands for behind a backslash. -/
def letterEscape? : Char → Option Char
  | '"' => some '"'
  | '\\' => some '\\'
  | '/' => some '/'
  | 'b' => some '\x08'
  | 'f' => some '\x0c'
  | 'n' => some '\n'
  | 'r' => some '\r'
  | 't' => some '\t'
  | _ => none

/-- The character of an escape, behind its backslash. -/
def escape : List Char → Except Error (Char × List Char)
  | [] => .error .ended
  | 'u' :: rest => numberEscape rest
  | c :: rest =>
      match letterEscape? c with
      | some c => .ok (c, rest)
      | none => .error .malformed

/-- Pass over an escape, behind its backslash, whatever its number. -/
def skipEscape : List Char → Except Error (List Char)
  | [] => .error .ended
  | 'u' :: rest => (hexEscape rest).map Prod.snd
  | c :: rest =>
      match letterEscape? c with
      | some _ => .ok rest
      | none => .error .malformed

theorem hexEscape_shorter {text rest : List Char} {n : Nat} (h : hexEscape text = .ok (n, rest)) :
    rest.length < text.length := by
  unfold hexEscape at h
  split at h
  · split at h
    · injection h with h
      injection h with _ h
      subst h
      simp
      omega
    · simp at h
  · simp at h

theorem numberEscape_shorter {text rest : List Char} {c : Char}
    (h : numberEscape text = .ok (c, rest)) : rest.length < text.length := by
  unfold numberEscape at h
  cases hn : hexEscape text with
  | error e => simp [hn, bind, Except.bind] at h
  | ok first =>
      rcases first with ⟨n, mid⟩
      have hmid := hexEscape_shorter hn
      simp only [hn, bind, Except.bind] at h
      split at h
      · simp [throw, throwThe, MonadExceptOf.throw] at h
      · split at h
        · split at h
          · simp [throw, throwThe, MonadExceptOf.throw] at h
          · simp [throw, throwThe, MonadExceptOf.throw] at h
          · rename_i tail
            cases hl : hexEscape tail with
            | error e => simp [hl] at h
            | ok second =>
                rcases second with ⟨low, last⟩
                have hlast := hexEscape_shorter hl
                simp only [hl] at h
                split at h
                · injection h with h
                  injection h with _ h
                  subst h
                  simp at hmid
                  omega
                · simp [throw, throwThe, MonadExceptOf.throw] at h
          · simp [throw, throwThe, MonadExceptOf.throw] at h
        · injection h with h
          injection h with _ h
          subst h
          exact hmid

theorem escape_shorter {text rest : List Char} {c : Char} (h : escape text = .ok (c, rest)) :
    rest.length < text.length := by
  unfold escape at h
  split at h
  · simp at h
  · have := numberEscape_shorter h
    simp
    omega
  · split at h
    · injection h with h
      injection h with _ h
      subst h
      simp
    · simp at h

theorem skipEscape_shorter {text rest : List Char} (h : skipEscape text = .ok rest) :
    rest.length < text.length := by
  unfold skipEscape at h
  split at h
  · simp at h
  · rename_i tail
    cases hn : hexEscape tail with
    | error e => simp [hn, Except.map] at h
    | ok first =>
        rcases first with ⟨n, last⟩
        have := hexEscape_shorter hn
        simp [hn, Except.map] at h
        subst h
        simp
        omega
  · split at h
    · injection h with h
      subst h
      simp
    · simp at h

/-- The characters up to the closing quote, behind those already read, which are in reverse. -/
def textBody (read : List Char) : List Char → Except Error (List Char × List Char)
  | [] => .error .ended
  | '"' :: rest => .ok (read.reverse, rest)
  | '\\' :: rest =>
      match _h : escape rest with
      | .ok (c, rest) => textBody (c :: read) rest
      | .error e => .error e
  | c :: rest =>
      if c.toNat < 0x20 then .error .malformed
      else textBody (c :: read) rest
termination_by text => text.length
decreasing_by
  · have := escape_shorter _h
    simp
    omega
  · simp

/-- Pass over the characters up to the closing quote. -/
def skipBody : List Char → Except Error (List Char)
  | [] => .error .ended
  | '"' :: rest => .ok rest
  | '\\' :: rest =>
      match _h : skipEscape rest with
      | .ok rest => skipBody rest
      | .error e => .error e
  | c :: rest =>
      if c.toNat < 0x20 then .error .malformed
      else skipBody rest
termination_by text => text.length
decreasing_by
  · have := skipEscape_shorter _h
    simp
    omega
  · simp

namespace Reader

/-- The text behind an opening quote. -/
def text : Reader String := fun s => do
  let (body, rest) ← textBody [] s
  return (String.ofList body, rest)

/-- Pass over the text behind an opening quote. -/
def skipText : Reader Unit := fun s => do
  return ((), ← skipBody s)

end Reader

end Json

end TokenAgent
