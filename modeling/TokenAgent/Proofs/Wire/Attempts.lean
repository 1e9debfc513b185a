import TokenAgent.Agent.Message
import TokenAgent.Proofs.Wire

/-!
# What a failed read leaves

Reads are made one after the other, and one that fails does not end the sequence: the next one
goes on with what it has left.  A read of a known size leaves everything.  A field is read in two
parts, and where its length is there but its data is cut, the length has been used up: what
follows is read from four bytes further on.

* `Running.repeated` — what a computation comes to, each time that it is made again;
* `Read.Fails` — the ways in which a read fails, and what it leaves unread;
* `Read.failure_tells` — which failed reads are without effect on the reads after them, and which
  can be made again to the same end;
* `Read.not_unread_of_failure` — that they do nothing does not hold of fields.
-/

namespace TokenAgent

namespace Running

variable {ε σ α : Type} {x : EStateM ε σ α} {e : ε} {s t : σ}

/-- What a computation comes to, and the state that it leaves either way. -/
def attempted (x : EStateM ε σ α) (s : σ) : Except ε α × σ :=
  match x s with
  | .ok a s' => (.ok a, s')
  | .error e s' => (.error e, s')

/-- What a computation comes to when it is made a number of times, whether it fails or not. -/
def repeated (x : EStateM ε σ α) : (times : Nat) → σ → List (Except ε α)
  | 0, _ => []
  | times + 1, s => (attempted x s).1 :: repeated x times (attempted x s).2

theorem attempted_error (h : x s = .error e t) : attempted x s = (.error e, t) := by
  rw [attempted, h]

theorem exists_error_of_attempted (h : (attempted x s).1 = .error e) : ∃ t, x s = .error e t := by
  cases hx : x s with
  | ok a s' => simp [attempted, hx] at h
  | error e' s' =>
      rw [attempted_error hx] at h
      cases h
      exact ⟨s', rfl⟩

/-- A failure that leaves the state alone comes again and again. -/
theorem repeated_of_stays (h : x s = .error e s) (times : Nat) :
    repeated x times s = List.replicate times (.error e) := by
  induction times with
  | zero => rfl
  | succ times ih => rw [repeated, attempted_error h, ih, List.replicate_succ]

/-- Where a failure comes a second time only if it leaves the state alone then, it comes every
time if and only if it does so. -/
theorem repeated_eq_replicate_iff (h : x s = .error e t) (hstays : ∀ t', x t = .error e t' → t' = t) :
    (∀ times, repeated x times s = List.replicate times (.error e)) ↔ x t = .error e t := by
  constructor
  · intro hagain
    have htwice := hagain 2
    rw [repeated, attempted_error h, repeated, List.replicate_succ, List.replicate_succ] at htwice
    injection htwice with _ hsecond
    injection hsecond with hsecond _
    rcases exists_error_of_attempted hsecond with ⟨t', ht⟩
    have hsame := hstays t' ht
    subst hsame
    exact ht
  · intro ht times
    cases times with
    | zero => rfl
    | succ times =>
        rw [repeated, attempted_error h, repeated_of_stays ht, List.replicate_succ]

end Running

open Running

/-- One of the reads that a buffer offers. -/
inductive Read where
  | byte
  | uint16
  | uint32
  | take (n : Nat)
  | skip (n : Nat)
  | field
  deriving DecidableEq, Repr

namespace Read

/-- What a read gives: a word, bytes, or nothing where they are passed over. -/
inductive Value where
  | word (n : Nat)
  | bytes (bs : Bytes)
  | passed
  deriving DecidableEq, Repr

def run : Read → Reader Value
  | byte => return .word (← Reader.byte).toNat
  | uint16 => return .word (← Reader.uint16).toNat
  | uint32 => return .word (← Reader.uint32).toNat
  | take n => return .bytes (← Reader.take n)
  | skip n => do
      Reader.skip n
      return .passed
  | field => return .bytes (← Reader.field)

/-- The number of bytes that a read asks for, unless the buffer itself tells it. -/
def size? : Read → Option Nat
  | byte => some 1
  | uint16 => some 2
  | uint32 => some 4
  | take n => some n
  | skip n => some n
  | field => none

variable {r : Read} {n : Nat} {missing : Shortfall} {unread rest buffer : Bytes}
  {before later : List Read}

/-! ## How a read fails -/

theorem run_of_short (hsize : r.size? = some n) (hcut : unread.length < n) :
    r.run unread = .error ⟨n, unread.length⟩ unread := by
  have htake := Reader.take_of_short hcut
  cases r with
  | byte =>
      cases hsize
      exact bind_error (bind_error htake)
  | uint16 =>
      cases hsize
      exact bind_error (bind_error htake)
  | uint32 =>
      cases hsize
      exact bind_error (bind_error htake)
  | take n =>
      cases hsize
      exact bind_error htake
  | skip n =>
      cases hsize
      exact bind_error (bind_error htake)
  | field => cases hsize

theorem exists_run_of_length {front : Bytes} (hsize : r.size? = some front.length) (rest : Bytes) :
    ∃ value, r.run (front ++ rest) = .ok value rest := by
  have htake : ∀ {n}, front.length = n → Reader.take n (front ++ rest) = .ok front rest :=
    fun hn => Reader.take_of_length rest hn
  cases r with
  | byte => exact ⟨_, bind_ok (bind_ok (htake (Option.some.inj hsize).symm))⟩
  | uint16 => exact ⟨_, bind_ok (bind_ok (htake (Option.some.inj hsize).symm))⟩
  | uint32 => exact ⟨_, bind_ok (bind_ok (htake (Option.some.inj hsize).symm))⟩
  | take n => exact ⟨_, bind_ok (htake (Option.some.inj hsize).symm)⟩
  | skip n => exact ⟨_, bind_ok (bind_ok (htake (Option.some.inj hsize).symm))⟩
  | field => cases hsize

/-- The ways in which a read of `unread` fails, and what it leaves: everything, unless it is a
field that is cut behind its length. -/
inductive Fails : Read → (unread : Bytes) → Shortfall → (rest : Bytes) → Prop where
  | short {r : Read} {n : Nat} {unread : Bytes} (hsize : r.size? = some n)
      (hcut : unread.length < n) : Fails r unread ⟨n, unread.length⟩ unread
  /-- Not even the length of the field is there. -/
  | lengthCut {unread : Bytes} (hcut : unread.length < 4) :
      Fails field unread ⟨4, unread.length⟩ unread
  | dataCut {size : Nat} {front : Bytes} (hfits : size < 2 ^ 32) (hcut : front.length < size) :
      Fails field (Bytes.bigEndian 4 size ++ front) ⟨size, front.length⟩ front

theorem Fails.run_eq (h : Fails r unread missing rest) : r.run unread = .error missing rest := by
  cases h with
  | short hsize hcut => exact run_of_short hsize hcut
  | lengthCut hcut => exact bind_error (bind_error (Reader.uint32_of_short hcut))
  | dataCut hfits hcut =>
      refine bind_error ?_
      rw [Reader.field_bigEndian hfits]
      exact Reader.take_of_short hcut

theorem run_eq_error_iff : r.run unread = .error missing rest ↔ Fails r unread missing rest := by
  constructor
  · intro h
    -- One way of failing is found for each buffer that is too short, and it gives the same error.
    have hsame : ∀ {missing' rest'}, Fails r unread missing' rest' →
        Fails r unread missing rest := by
      intro missing' rest' hfails
      have hrun := hfails.run_eq
      rw [h] at hrun
      cases hrun
      exact hfails
    cases hsize : r.size? with
    | some n =>
        by_cases hcut : unread.length < n
        · exact hsame (.short hsize hcut)
        · rcases Bytes.exists_front (Nat.le_of_not_lt hcut) with ⟨front, behind, rfl, rfl⟩
          rcases exists_run_of_length hsize behind with ⟨value, hvalue⟩
          rw [hvalue] at h
          cases h
    | none =>
        have hfield : r = field := by
          cases r <;> simp_all [size?]
        subst hfield
        by_cases hlength : unread.length < 4
        · exact hsame (.lengthCut hlength)
        · rcases Bytes.exists_bigEndian (Nat.le_of_not_lt hlength) with ⟨size, behind, hfits, rfl⟩
          by_cases hcut : behind.length < size
          · exact hsame (.dataCut hfits hcut)
          · rcases Bytes.exists_front (Nat.le_of_not_lt hcut) with ⟨data, more, rfl, rfl⟩
            have hread : Reader.field (Bytes.bigEndian 4 data.length ++ (data ++ more))
                = .ok data more := by
              rw [Reader.field_bigEndian hfits]
              exact Reader.take_append data more
            have hvalue : run field (Bytes.bigEndian 4 data.length ++ (data ++ more))
                = .ok (.bytes data) more := bind_ok hread
            rw [hvalue] at h
            cases h
  · exact Fails.run_eq

/-! ## What it leaves -/

/-- The error tells what was left unread, and that this was too little. -/
theorem Fails.remaining_eq (h : Fails r unread missing rest) :
    missing.remaining = rest.length ∧ missing.remaining < missing.needed := by
  cases h with
  | short hsize hcut => exact ⟨rfl, hcut⟩
  | lengthCut hcut => exact ⟨rfl, hcut⟩
  | dataCut hfits hcut => exact ⟨rfl, hcut⟩

/-- Nothing is used up, or it is a field whose length is. -/
theorem Fails.rest_cases (h : Fails r unread missing rest) :
    (¬ (r = field ∧ 4 ≤ unread.length) ∧ rest = unread) ∨
      (r = field ∧ unread = Bytes.bigEndian 4 missing.needed ++ rest) := by
  cases h with
  | short hsize hcut =>
      left
      refine ⟨?_, rfl⟩
      rintro ⟨rfl, _⟩
      cases hsize
  | lengthCut hcut =>
      left
      exact ⟨fun hfield => Nat.not_le.2 hcut hfield.2, rfl⟩
  | dataCut hfits hcut => exact Or.inr ⟨rfl, rfl⟩

theorem Fails.eq_append (h : Fails r unread missing rest)
    (hlength : r = field ∧ 4 ≤ unread.length) :
    unread = Bytes.bigEndian 4 missing.needed ++ rest := by
  rcases h.rest_cases with ⟨hother, _⟩ | ⟨_, hunread⟩
  · exact absurd hlength hother
  · exact hunread

theorem Fails.rest_eq_iff (h : Fails r unread missing rest) :
    rest = unread ↔ ¬ (r = field ∧ 4 ≤ unread.length) := by
  rcases h.rest_cases with ⟨hother, rfl⟩ | ⟨rfl, rfl⟩
  · exact iff_of_true rfl hother
  · refine iff_of_false ?_ (by simp)
    intro hsame
    have hlength := congrArg List.length hsame
    rw [List.length_append, Bytes.length_bigEndian] at hlength
    omega

/-- A field that cannot be read a second time for the same reason has left everything then. -/
theorem Fails.again {rest' : Bytes} (h : Fails r unread missing rest)
    (hagain : Fails r rest missing rest') : rest' = rest ∧ (r = field → missing.needed = 4) := by
  have hlength : rest'.length = rest.length := by
    rw [← hagain.remaining_eq.1, h.remaining_eq.1]
  cases hagain with
  | short hsize hcut =>
      refine ⟨rfl, ?_⟩
      rintro rfl
      cases hsize
  | lengthCut hcut => exact ⟨rfl, fun _ => rfl⟩
  | dataCut hfits hcut =>
      -- Four bytes less would have been left.
      rw [List.length_append, Bytes.length_bigEndian] at hlength
      omega

/-- A read that fails fails again for the same reason, unless it is a field that declares another
length than that of a length. -/
theorem Fails.again_iff (h : Fails r unread missing rest) :
    Fails r rest missing rest ↔ (r = field → missing.needed = 4) := by
  constructor
  · intro hagain
    exact (h.again hagain).2
  · intro hneeded
    cases h with
    | short hsize hcut => exact .short hsize hcut
    | lengthCut hcut => exact .lengthCut hcut
    | @dataCut size front hfits hcut =>
        have hfour : size = 4 := hneeded rfl
        subst hfour
        exact .lengthCut hcut

theorem Fails.repeated_iff (h : Fails r unread missing rest) :
    (∀ times, repeated r.run times unread = List.replicate times (.error missing)) ↔
      (r = field → missing.needed = 4) := by
  have hstays : ∀ rest', r.run rest = .error missing rest' → rest' = rest := by
    intro rest' hagain
    exact (h.again (run_eq_error_iff.1 hagain)).1
  rw [repeated_eq_replicate_iff h.run_eq hstays, run_eq_error_iff, h.again_iff]

/-! ## Reads in sequence -/

/-- What reads come to, made one after the other. -/
def outcomes : List Read → Bytes → List (Except Shortfall Value)
  | [], _ => []
  | r :: later, unread => (attempted r.run unread).1 :: outcomes later (attempted r.run unread).2

/-- What reads leave unread. -/
def after : List Read → Bytes → Bytes
  | [], unread => unread
  | r :: later, unread => after later (attempted r.run unread).2

theorem outcomes_append (before later : List Read) (buffer : Bytes) :
    outcomes (before ++ later) buffer
      = outcomes before buffer ++ outcomes later (after before buffer) := by
  induction before generalizing buffer with
  | nil => rfl
  | cons r before ih => rw [List.cons_append, outcomes, ih, outcomes, List.cons_append, after]

theorem after_append (before later : List Read) (buffer : Bytes) :
    after (before ++ later) buffer = after later (after before buffer) := by
  induction before generalizing buffer with
  | nil => rfl
  | cons r before ih => rw [List.cons_append, after, ih, after]

theorem length_outcomes (reads : List Read) (buffer : Bytes) :
    (outcomes reads buffer).length = reads.length := by
  induction reads generalizing buffer with
  | nil => rfl
  | cons r later ih => rw [outcomes, List.length_cons, ih, List.length_cons]

theorem attempted_skip {k : Nat} {front : Bytes} (h : front.length = k) (rest : Bytes) :
    attempted (skip k).run (front ++ rest) = (.ok .passed, rest) := by
  have hrun : (skip k).run (front ++ rest) = .ok .passed rest :=
    bind_ok (Reader.skip_of_length rest h)
  rw [attempted, hrun]

/-- The reads behind one that fails go on with what it has left. -/
theorem Fails.outcomes_eq (h : Fails r (after before buffer) missing rest) (later : List Read) :
    outcomes (before ++ r :: later) buffer
      = outcomes before buffer ++ .error missing :: outcomes later rest := by
  rw [outcomes_append, outcomes, attempted_error h.run_eq]

theorem Fails.after_eq (h : Fails r (after before buffer) missing rest) (later : List Read) :
    after (before ++ r :: later) buffer = after later rest := by
  rw [after_append, after, attempted_error h.run_eq]

theorem Fails.getElem?_outcomes (h : Fails r (after before buffer) missing rest)
    (later : List Read) :
    (outcomes (before ++ r :: later) buffer)[before.length]? = some (.error missing) := by
  rw [h.outcomes_eq, ← length_outcomes before buffer, List.getElem?_append_right (Nat.le_refl _),
    Nat.sub_self, List.getElem?_cons_zero]

/-- A read that has left everything might as well not have been attempted. -/
theorem Fails.without (h : Fails r (after before buffer) missing rest)
    (hrest : rest = after before buffer) (later : List Read) :
    (outcomes (before ++ r :: later) buffer).eraseIdx before.length
        = outcomes (before ++ later) buffer ∧
      after (before ++ r :: later) buffer = after (before ++ later) buffer := by
  constructor
  · rw [h.outcomes_eq, outcomes_append, ← length_outcomes before buffer,
      List.eraseIdx_append_of_length_le (Nat.le_refl _), Nat.sub_self, List.eraseIdx_cons_zero,
      hrest]
  · rw [h.after_eq, after_append, hrest]

/-- A field that is cut behind its length has passed over the length. -/
theorem Fails.passing (h : Fails r (after before buffer) missing rest)
    (hlength : r = field ∧ 4 ≤ (after before buffer).length) (later : List Read) :
    (outcomes (before ++ r :: later) buffer).set before.length (.ok .passed)
        = outcomes (before ++ skip 4 :: later) buffer ∧
      after (before ++ r :: later) buffer = after (before ++ skip 4 :: later) buffer := by
  have hskip : attempted (skip 4).run (after before buffer) = (.ok .passed, rest) := by
    rw [h.eq_append hlength]
    exact attempted_skip (Bytes.length_bigEndian 4 missing.needed) rest
  constructor
  · rw [h.outcomes_eq, outcomes_append, outcomes, hskip, ← length_outcomes before buffer,
      List.set_append_right _ _ (Nat.le_refl _), Nat.sub_self, List.set_cons_zero]
  · rw [h.after_eq, after_append, after, hskip]

/-! ## Challenges -/

theorem field_eq_error_iff :
    Reader.field unread = .error missing rest ↔ Fails field unread missing rest := by
  rw [← run_eq_error_iff, run]
  cases hread : Reader.field unread with
  | ok data left =>
      rw [bind_ok hread]
      constructor
      · intro h
        cases h
      · intro h
        cases h
  | error missing' left =>
      rw [bind_error hread]
      simp only [EStateM.Result.error.injEq]

theorem challenge_eq_error_iff {request left : SignRequest} {e : DecodeError} :
    SignRequest.challenge request = .error e left ↔
      ∃ missing, e = .unexpectedEnd missing ∧ Fails field request.body missing left.body ∧
        left.key = request.key := by
  simp only [← field_eq_error_iff]
  rw [SignRequest.challenge]
  rcases left with ⟨key, body⟩
  cases Reader.field request.body with
  | ok challenge rest => simp
  | error missing rest =>
      simp only [EStateM.Result.error.injEq, SignRequest.mk.injEq]
      constructor
      · rintro ⟨rfl, rfl, rfl⟩
        exact ⟨missing, rfl, ⟨rfl, rfl⟩, rfl⟩
      · rintro ⟨_, rfl, ⟨rfl, rfl⟩, rfl⟩
        exact ⟨rfl, rfl, rfl⟩

/-- A challenge that is cut is cut in the same way every time only if four bytes were asked for. -/
theorem Fails.challenge_repeated_iff {request : SignRequest}
    (h : Fails field request.body missing rest) :
    (∀ times, repeated SignRequest.challenge times request
        = List.replicate times (.error (.unexpectedEnd missing))) ↔ missing.needed = 4 := by
  have hchallenge : SignRequest.challenge request
      = .error (.unexpectedEnd missing) ⟨request.key, rest⟩ :=
    challenge_eq_error_iff.2 ⟨missing, rfl, h, rfl⟩
  have hstays : ∀ left, SignRequest.challenge ⟨request.key, rest⟩
      = .error (.unexpectedEnd missing) left → left = ⟨request.key, rest⟩ := by
    intro left hagain
    rcases challenge_eq_error_iff.1 hagain with ⟨missing', hsame, hfails, hkey⟩
    cases hsame
    have hbody := (h.again hfails).1
    rcases left with ⟨key, body⟩
    simp_all
  rw [repeated_eq_replicate_iff hchallenge hstays, challenge_eq_error_iff]
  constructor
  · rintro ⟨missing', hsame, hfails, _⟩
    cases hsame
    exact h.again_iff.1 hfails rfl
  · intro hfour
    exact ⟨missing, rfl, h.again_iff.2 fun _ => hfour, rfl⟩

/-! ## Failed reads and what comes after them -/

/-- A failed read leaves the buffer as it was, and the reads behind it go on as if it had not been
attempted, exactly if it is no field that is cut behind its length; behind such a field they go on
as behind the passing over of four bytes.  A failed read fails again in the same way every time
exactly if it is no field or asked for four bytes, and so does a challenge. -/
theorem failure_tells (before : List Read) (r : Read) (buffer rest : Bytes) (missing : Shortfall)
    (h : r.run (after before buffer) = .error missing rest) :
    (missing.remaining = rest.length ∧ missing.remaining < missing.needed) ∧
    (rest = after before buffer ↔ ¬ (r = field ∧ 4 ≤ (after before buffer).length)) ∧
    ((∀ times, repeated r.run times (after before buffer)
        = List.replicate times (.error missing)) ↔ (r = field → missing.needed = 4)) ∧
    (∀ later, (outcomes (before ++ r :: later) buffer)[before.length]? = some (.error missing)) ∧
    ((∀ later,
        (outcomes (before ++ r :: later) buffer).eraseIdx before.length
            = outcomes (before ++ later) buffer ∧
          after (before ++ r :: later) buffer = after (before ++ later) buffer) ↔
      ¬ (r = field ∧ 4 ≤ (after before buffer).length)) ∧
    (r = field ∧ 4 ≤ (after before buffer).length →
      after before buffer = Bytes.bigEndian 4 missing.needed ++ rest ∧
      ∀ later,
        (outcomes (before ++ r :: later) buffer).set before.length (.ok .passed)
            = outcomes (before ++ skip 4 :: later) buffer ∧
          after (before ++ r :: later) buffer = after (before ++ skip 4 :: later) buffer) ∧
    ∀ key, r = field →
      ((∀ times, repeated SignRequest.challenge times ⟨key, after before buffer⟩
          = List.replicate times (.error (.unexpectedEnd missing))) ↔ missing.needed = 4) := by
  have hfails := run_eq_error_iff.1 h
  refine ⟨hfails.remaining_eq, hfails.rest_eq_iff, hfails.repeated_iff,
    hfails.getElem?_outcomes, ?_, ?_, ?_⟩
  · rw [← hfails.rest_eq_iff]
    constructor
    · intro hwithout
      -- With nothing behind the read, what it leaves is what is left in the end.
      have hend := (hwithout []).2
      rwa [hfails.after_eq, List.append_nil, after] at hend
    · intro hrest later
      exact hfails.without hrest later
  · intro hlength
    exact ⟨hfails.eq_append hlength, hfails.passing hlength⟩
  · rintro key rfl
    exact hfails.challenge_repeated_iff

theorem failure_tells_field_cut :
    field.run (after [byte] [7, 0, 0, 0, 9, 1, 2]) = .error ⟨9, 2⟩ [1, 2] ∧
      outcomes [byte, skip 4, uint16] [7, 0, 0, 0, 9, 1, 2]
        = [.ok (.word 7), .ok .passed, .ok (.word 258)] ∧
      (outcomes [byte, field, uint16] [7, 0, 0, 0, 9, 1, 2]).set 1 (.ok .passed)
        = [.ok (.word 7), .ok .passed, .ok (.word 258)] := by
  have hcut : field.run (after [byte] [7, 0, 0, 0, 9, 1, 2]) = .error ⟨9, 2⟩ [1, 2] := rfl
  have hskip : outcomes [byte, skip 4, uint16] [7, 0, 0, 0, 9, 1, 2]
      = [.ok (.word 7), .ok .passed, .ok (.word 258)] := rfl
  obtain ⟨-, -, -, -, -, hpassing, -⟩ := failure_tells [byte] field _ _ _ hcut
  have hlater := ((hpassing ⟨rfl, by decide⟩).2 [uint16]).1
  exact ⟨hcut, hskip, hlater.trans hskip⟩

/-- A field of nine bytes of which there are two fails, and then there is no other length. -/
theorem not_unread_of_failure :
    ¬ (∀ (before : List Read) (r : Read) (buffer rest : Bytes) (missing : Shortfall),
        r.run (after before buffer) = .error missing rest → rest = after before buffer) ∧
    ¬ ∀ (request left : SignRequest) (e : DecodeError),
        SignRequest.challenge request = .error e left →
          ∃ left', SignRequest.challenge left = .error e left' := by
  constructor
  · intro h
    have hcut : field.run [0, 0, 0, 9, 1, 2] = .error ⟨9, 2⟩ [1, 2] := rfl
    exact absurd (h [] field _ _ _ hcut) (by decide)
  · intro h
    have hcut : SignRequest.challenge ⟨[], [0, 0, 0, 9, 1, 2]⟩
        = .error (.unexpectedEnd ⟨9, 2⟩) ⟨[], [1, 2]⟩ := rfl
    have hagain : SignRequest.challenge ⟨[], [1, 2]⟩
        = .error (.unexpectedEnd ⟨4, 2⟩) ⟨[], [1, 2]⟩ := rfl
    rcases h _ _ _ hcut with ⟨left', hsame⟩
    rw [hagain] at hsame
    cases hsame

end Read

end TokenAgent
