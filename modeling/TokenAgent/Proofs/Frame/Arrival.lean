import TokenAgent.Proofs.Frame.Reading

/-!
# How the bytes arrive

A transport may cut what it delivers anywhere.  `Frame.assemble_append` says that an answer that
is not "more" is final: no further byte changes it.  Hence a buffer that collects a stream piece
by piece waits, and then answers what the whole stream assembles to, however it is cut
(`Frame.Buffer.pushAll_of_reset`).
-/

namespace TokenAgent

namespace Frame

/-! ## Answers that are final -/

/-- A message stays the message, and a fault the same fault, when more bytes follow. -/
theorem Reading.append {raw : Bytes} {outcome : Except FramingError Assembly}
    (h : Reading raw outcome) (hfinal : outcome ≠ .ok .incomplete) (tail : Bytes) :
    Reading (raw ++ tail) outcome := by
  cases h with
  | short _ => exact absurd rfl hfinal
  | waiting _ _ => exact absurd rfl hfinal
  | @firstFault h rest e hsize hcheck =>
      -- The faulty header is still the first thing in the buffer.
      have hlonger : 2 ≤ (rest ++ tail).length := by
        rw [List.length_append]
        exact Nat.le_add_right_of_le hsize
      simpa only [List.append_assoc] using Reading.firstFault hlonger hcheck
  | @laterFault length i first data rest h e hfits hfirst hdata hmore hcheck hsize =>
      -- The message was all there, so that its packets are looked at has not changed.
      have hlonger : framedLength length
          ≤ (opening length ++ (first ++ (laterWire 1 data ++ (h.toBytes ++ (rest ++ tail))))).length := by
        simp only [List.length_append] at hsize ⊢
        exact Nat.le_trans hsize (by omega)
      simpa only [List.append_assoc] using
        Reading.laterFault hfits hfirst hdata hmore hcheck hlonger
  | @whole message rest hfits =>
      have hwhole : Reading (wire message ++ (rest ++ tail)) (.ok (.complete message)) :=
        Reading.whole hfits
      simpa only [List.append_assoc] using hwhole

theorem assemble_append {raw : Bytes} (h : assemble raw ≠ .ok .incomplete) (tail : Bytes) :
    assemble (raw ++ tail) = assemble raw :=
  ((reading_assemble raw).append h tail).assemble_eq

theorem assemble_nil : assemble [] = .ok .incomplete := by
  have hshort : ([] : Bytes).length < firstHeaderSize := by decide
  exact (Reading.short hshort).assemble_eq

/-! ## Buffers over time -/

namespace Buffer

/-- What can be done with a buffer. -/
inductive Event where
  | push (arrival : Bytes)
  | clear
  deriving DecidableEq

/-- The buffer after a history. -/
def after (b : Buffer) : List Event → Buffer
  | [] => b
  | .push arrival :: rest => (b.push arrival).2.after rest
  | .clear :: rest => b.clear.after rest

/-- The answers to pushes one after the other. -/
def pushAll (b : Buffer) : List Bytes → List (Except FramingError Assembly)
  | [] => []
  | arrival :: rest => (b.push arrival).1 :: (b.push arrival).2.pushAll rest

theorem after_append (b : Buffer) (earlier later : List Event) :
    b.after (earlier ++ later) = (b.after earlier).after later := by
  induction earlier generalizing b with
  | nil => rfl
  | cons event rest ih =>
      cases event with
      | push arrival => exact ih (b.push arrival).2
      | clear => exact ih b.clear

/-- A buffer that is new or was just cleared holds nothing, whatever it held before. -/
theorem after_of_reset {history : List Event}
    (h : history = [] ∨ history.getLast? = some .clear) : empty.after history = empty := by
  rcases h with rfl | hlast
  · rfl
  · rcases List.getLast?_eq_some_iff.1 hlast with ⟨earlier, rfl⟩
    rw [after_append]
    rfl

/-- Once an answer is final, every later push repeats it. -/
theorem pushAll_of_final {b : Buffer} (h : assemble b.bytes ≠ .ok .incomplete)
    (chunks : List Bytes) :
    b.pushAll chunks = List.replicate chunks.length (assemble b.bytes) := by
  induction chunks generalizing b with
  | nil => rfl
  | cons chunk rest ih =>
      have hsame : assemble (b.bytes ++ chunk) = assemble b.bytes := assemble_append h chunk
      have hstill : assemble (b.push chunk).2.bytes ≠ .ok .incomplete := by
        intro hwait
        exact h (hsame.symm.trans hwait)
      have hrest : (b.push chunk).2.pushAll rest
          = List.replicate rest.length (assemble (b.bytes ++ chunk)) := ih hstill
      have hanswer : (b.push chunk).1 = assemble (b.bytes ++ chunk) := rfl
      rw [pushAll, hanswer, hrest, hsame]
      rfl

/-- Pushing a stream in pieces: some pushes wait, and all others answer what the whole stream
assembles to. -/
theorem pushAll_of_incomplete {b : Buffer} (h : assemble b.bytes = .ok .incomplete)
    (chunks : List Bytes) :
    ∃ waiting settled, b.pushAll chunks = List.replicate waiting (.ok .incomplete)
        ++ List.replicate settled (assemble (b.bytes ++ chunks.flatten)) ∧
      waiting + settled = chunks.length ∧
      (assemble (b.bytes ++ chunks.flatten) ≠ .ok .incomplete → 0 < settled) := by
  induction chunks generalizing b with
  | nil =>
      refine ⟨0, 0, rfl, rfl, ?_⟩
      intro hfinal
      exact absurd (by simpa using h) hfinal
  | cons chunk rest ih =>
      have hstream : b.bytes ++ (chunk :: rest).flatten
          = (b.bytes ++ chunk) ++ rest.flatten := by
        simp
      rw [hstream]
      by_cases hwait : assemble (b.bytes ++ chunk) = .ok .incomplete
      · -- This push waits too; the buffer is longer and the stream shorter.
        rcases ih (b := (b.push chunk).2) hwait with ⟨waiting, settled, hanswers, hcount, hlast⟩
        refine ⟨waiting + 1, settled, ?_, ?_, hlast⟩
        · have hanswer : (b.push chunk).1 = .ok .incomplete := hwait
          rw [pushAll, hanswer, hanswers]
          rfl
        · rw [List.length_cons, ← hcount]
          omega
      · -- This push settles the matter, for the rest of the stream as well.
        have hwhole : assemble (b.bytes ++ chunk ++ rest.flatten) = assemble (b.bytes ++ chunk) :=
          assemble_append hwait _
        refine ⟨0, rest.length + 1, ?_, ?_, ?_⟩
        · have hrest : (b.push chunk).2.pushAll rest
              = List.replicate rest.length (assemble (b.bytes ++ chunk)) :=
            pushAll_of_final hwait rest
          have hanswer : (b.push chunk).1 = assemble (b.bytes ++ chunk) := rfl
          rw [pushAll, hanswer, hrest, hwhole]
          rfl
        · simp
        · intro _
          exact Nat.succ_pos _

/-- Answers that are final never change, and so it does not matter how a stream arrives.  In a
buffer that is new or was just cleared, every push waits until one of them answers what the
whole stream assembles to, and all later ones repeat that; if the stream is not enough for an
answer, every push waits. -/
theorem pushAll_of_reset :
    (∀ raw tail : Bytes, assemble raw ≠ .ok .incomplete → assemble (raw ++ tail) = assemble raw) ∧
    ∀ (history : List Event), (history = [] ∨ history.getLast? = some .clear) →
      ∀ (stream : Bytes) (chunks : List Bytes), chunks.flatten = stream →
        ∀ answers, answers = (empty.after history).pushAll chunks →
          answers.length = chunks.length ∧
          (assemble stream = .ok .incomplete → ∀ answer ∈ answers, answer = .ok .incomplete) ∧
          (assemble stream ≠ .ok .incomplete → ∃ first < chunks.length, ∀ k < chunks.length,
            answers[k]? = some (if k < first then .ok .incomplete else assemble stream)) := by
  constructor
  · intro raw tail hfinal
    exact assemble_append hfinal tail
  · rintro history hreset stream chunks rfl answers rfl
    -- The history is forgotten: the buffer starts out empty, and so it waits.
    have hempty : assemble (empty.after history).bytes = .ok .incomplete := by
      rw [after_of_reset hreset]
      exact assemble_nil
    have hstream : (empty.after history).bytes ++ chunks.flatten = chunks.flatten := by
      rw [after_of_reset hreset]
      rfl
    rcases pushAll_of_incomplete hempty chunks with ⟨waiting, settled, hanswers, hcount, hsettled⟩
    rw [hstream] at hanswers hsettled
    rw [hanswers, ← hcount]
    refine ⟨by simp, ?_, ?_⟩
    · intro hwait answer hmem
      rw [hwait] at hmem
      rcases List.mem_append.1 hmem with hearly | hlate
      · exact List.eq_of_mem_replicate hearly
      · exact List.eq_of_mem_replicate hlate
    · intro hfinal
      -- The first answer that is final comes right behind those that wait.
      have hpos := hsettled hfinal
      refine ⟨waiting, by omega, ?_⟩
      intro k hk
      by_cases hearly : k < waiting
      · rw [List.getElem?_append_left (by simpa using hearly)]
        simp [hearly]
      · have hrest : k - waiting < settled := by omega
        rw [List.getElem?_append_right (by simpa using Nat.not_lt.1 hearly)]
        simp [hearly, hrest]

end Buffer

end Frame

end TokenAgent
