import TokenAgent.Proofs.Exchange.Leftovers
import TokenAgent.Proofs.Exchange.Sending

/-!
# Waiting through any reads

Reads bring bytes, nothing, or a failure, in any order and cut anywhere.  Waiting for a message
ends with the first read that fails or after which the bytes so far are a message or violate the
framing, and no later read is touched; if there is no such read, it ends at the deadline.

* `Exchange.receiveWithin_of_read` — one read, over any transport;
* `Exchange.Concluded` — how waiting goes on and ends, told by what the reads bring;
* `Exchange.Concluded.eq_concluded` — the outcome hangs on the bytes before the first failure and
  on that failure alone, so reads that bring the same have the same outcome (`Regrouped`);
* `Exchange.perform_reads` — all of it for an exchange.
-/

namespace TokenAgent

open TokenAgent.Frame Running Transport

/-! ## What reads bring -/

/-- What one read brings: bytes, nothing, or a failure. -/
abbrev Arrival := Except TransportFault (Option Bytes)

def Arrival.bytes : Arrival → Bytes
  | .ok chunk => chunk.getD []
  | .error _ => []

/-- The same bytes and failures, brought by other reads. -/
inductive Regrouped : List Arrival → List Arrival → Prop where
  | refl (arrivals : List Arrival) : Regrouped arrivals arrivals
  | symm {arrivals arrivals' : List Arrival} (h : Regrouped arrivals arrivals') :
      Regrouped arrivals' arrivals
  | trans {arrivals arrivals' arrivals'' : List Arrival} (first : Regrouped arrivals arrivals')
      (later : Regrouped arrivals' arrivals'') : Regrouped arrivals arrivals''
  | cons (arrival : Arrival) {rest rest' : List Arrival} (h : Regrouped rest rest') :
      Regrouped (arrival :: rest) (arrival :: rest')
  /-- A read that brings nothing, or no bytes, is put in. -/
  | idle {pause : Option Bytes} (h : pause = none ∨ pause = some []) (rest : List Arrival) :
      Regrouped rest (.ok pause :: rest)
  /-- A chunk is cut in two. -/
  | cut (front back : Bytes) (rest : List Arrival) :
      Regrouped (.ok (some (front ++ back)) :: rest)
        (.ok (some front) :: .ok (some back) :: rest)

namespace Exchange

/-! ## When waiting ends -/

/-- What ends the waiting for a message, if an assembled buffer does. -/
def final? : Except FramingError Assembly → Option (Except Error Bytes)
  | .ok .incomplete => none
  | .ok (.complete message) => some (.ok message)
  | .error e => some (.error (.framing e))

/-- What ends the waiting for a message, if an arrival behind some bytes does. -/
def verdict? (before : Bytes) : Arrival → Option (Except Error Bytes)
  | .error fault => some (.error (.transport (.readFailed fault)))
  | .ok chunk => final? (assemble (before ++ chunk.getD []))

/-- What ends the waiting for a message, if read number `k` does: it fails, or all bytes that
have arrived by then are a message or violate the framing. -/
def verdictAt (before : Bytes) (arrivals : List Arrival) (k : Nat) :
    Option (Except Error Bytes) :=
  arrivals[k]?.bind (verdict? (before ++ (arrivals.take k).flatMap Arrival.bytes))

/-- Read number `k` is the first that ends the waiting for a message. -/
structure FirstVerdict (before : Bytes) (arrivals : List Arrival) (k : Nat)
    (result : Except Error Bytes) : Prop where
  verdict : verdictAt before arrivals k = some result
  first : ∀ j < k, verdictAt before arrivals j = none

/-- Waiting for a message behind some bytes ends after `n` of the arrivals, or at the deadline
when there are no more. -/
inductive Concluded (deadline : Duration) :
    Bytes → List Arrival → Nat → Except Error Bytes → Prop where
  | timeout (before : Bytes) :
      Concluded deadline before [] 0 (.error (.transport (.timeout deadline)))
  | verdict {before : Bytes} {arrival : Arrival} {result : Except Error Bytes}
      (h : verdict? before arrival = some result) (rest : List Arrival) :
      Concluded deadline before (arrival :: rest) 1 result
  | more {before : Bytes} {arrival : Arrival} {rest : List Arrival} {n : Nat}
      {result : Except Error Bytes} (h : verdict? before arrival = none)
      (later : Concluded deadline (before ++ arrival.bytes) rest n result) :
      Concluded deadline before (arrival :: rest) (n + 1) result

variable {deadline wait : Duration} {before : Bytes} {arrival : Arrival}
  {rest arrivals arrivals' : List Arrival} {n k : Nat} {result result' : Except Error Bytes}

theorem final?_eq_none_iff {outcome : Except FramingError Assembly} :
    final? outcome = none ↔ outcome = .ok .incomplete := by
  cases outcome with
  | error e => simp [final?]
  | ok assembly =>
      cases assembly with
      | incomplete => simp [final?]
      | complete message => simp [final?]

theorem assemble_of_verdict?_eq_none (h : verdict? before arrival = none) :
    assemble (before ++ arrival.bytes) = .ok .incomplete := by
  cases arrival with
  | error fault => cases h
  | ok chunk => exact final?_eq_none_iff.1 h

theorem verdictAt_zero : verdictAt before (arrival :: rest) 0 = verdict? before arrival := by
  simp [verdictAt]

theorem verdictAt_succ :
    verdictAt before (arrival :: rest) (k + 1) = verdictAt (before ++ arrival.bytes) rest k := by
  simp [verdictAt]

/-- The first verdict there is ends the waiting. -/
theorem Concluded.of_first (h : Concluded deadline before arrivals n result)
    (hfirst : FirstVerdict before arrivals k result') : n = k + 1 ∧ result = result' := by
  induction h generalizing k with
  | timeout before => exact absurd hfirst.verdict (by simp [verdictAt])
  | @verdict before arrival result h rest =>
      cases k with
      | zero =>
          have hsame := hfirst.verdict
          rw [verdictAt_zero, h] at hsame
          exact ⟨rfl, Option.some.inj hsame⟩
      | succ k =>
          have hnone := hfirst.first 0 (Nat.succ_pos k)
          rw [verdictAt_zero, h] at hnone
          cases hnone
  | @more before arrival rest n result h later ih =>
      cases k with
      | zero =>
          have hsome := hfirst.verdict
          rw [verdictAt_zero, h] at hsome
          cases hsome
      | succ k =>
          have hlater : FirstVerdict (before ++ arrival.bytes) rest k result' := by
            refine ⟨?_, ?_⟩
            · rw [← verdictAt_succ]
              exact hfirst.verdict
            · intro j hj
              rw [← verdictAt_succ]
              exact hfirst.first (j + 1) (Nat.succ_lt_succ hj)
          rcases ih hlater with ⟨rfl, hresult⟩
          exact ⟨rfl, hresult⟩

/-- Without a verdict every arrival is read, and then the deadline is reached. -/
theorem Concluded.of_none (h : Concluded deadline before arrivals n result)
    (hnone : ∀ k, verdictAt before arrivals k = none) :
    n = arrivals.length ∧ result = .error (.transport (.timeout deadline)) := by
  induction h with
  | timeout before => exact ⟨rfl, rfl⟩
  | @verdict before arrival result h rest =>
      have hfirst := hnone 0
      rw [verdictAt_zero, h] at hfirst
      cases hfirst
  | @more before arrival rest n result h later ih =>
      have hlater : ∀ k, verdictAt (before ++ arrival.bytes) rest k = none := by
        intro k
        rw [← verdictAt_succ]
        exact hnone (k + 1)
      rcases ih hlater with ⟨rfl, hresult⟩
      exact ⟨rfl, hresult⟩

/-! ## What the outcome hangs on -/

/-- The bytes that arrive until reading fails or the deadline is reached, and which of the two it
is. -/
def stream (deadline : Duration) : List Arrival → Bytes × TransportError
  | [] => ([], .timeout deadline)
  | .error fault :: _ => ([], .readFailed fault)
  | .ok chunk :: rest => (chunk.getD [] ++ (stream deadline rest).1, (stream deadline rest).2)

/-- What waiting for a message comes to, told by all bytes there are and by why there are no
more. -/
def concluded (bytes : Bytes) (stop : TransportError) : Except Error Bytes :=
  (final? (assemble bytes)).getD (.error (.transport stop))

/-- How many reads bring the bytes, and whether the last of them were needed, is no part of the
outcome. -/
theorem Concluded.eq_concluded (h : Concluded deadline before arrivals n result)
    (hwaiting : assemble before = .ok .incomplete) :
    result = concluded (before ++ (stream deadline arrivals).1) (stream deadline arrivals).2 := by
  induction h with
  | timeout before =>
      rw [stream, List.append_nil, concluded, hwaiting]
      rfl
  | @verdict before arrival result h rest =>
      cases arrival with
      | error fault =>
          rw [stream, List.append_nil, concluded, hwaiting]
          exact (Option.some.inj h).symm
      | ok chunk =>
          -- The answer is final, so it is also the answer to all bytes together.
          have hanswer : final? (assemble (before ++ chunk.getD [])) = some result := h
          have hfinal : assemble (before ++ chunk.getD []) ≠ .ok .incomplete := by
            intro hmore
            rw [final?_eq_none_iff.2 hmore] at hanswer
            cases hanswer
          rw [stream, ← List.append_assoc, concluded, assemble_append hfinal, hanswer]
          rfl
  | @more before arrival rest n result h later ih =>
      have hmore := assemble_of_verdict?_eq_none h
      cases arrival with
      | error fault => cases h
      | ok chunk =>
          have hlater := ih hmore
          rw [List.append_assoc] at hlater
          exact hlater

theorem stream_eq_of_regrouped (h : Regrouped arrivals arrivals') :
    stream deadline arrivals = stream deadline arrivals' := by
  induction h with
  | refl arrivals => rfl
  | symm h ih => exact ih.symm
  | trans first later ihfirst ihlater => exact ihfirst.trans ihlater
  | cons arrival h ih =>
      cases arrival with
      | error fault => rfl
      | ok chunk => rw [stream, stream, ih]
  | idle h rest => rcases h with rfl | rfl <;> rfl
  | cut front back rest => simp [stream]

/-! ## The reads of an exchange -/

/-- One read, behind bytes that are not enough. -/
theorem receiveWithin_of_read {σ : Type} [Transport σ] {s s' : σ} {buffer : Buffer}
    (hwaiting : assemble buffer.bytes = .ok .incomplete)
    (h : Transport.read wait s = settled arrival s') (reads : Nat) :
    receiveWithin deadline (reads + 1) wait buffer s =
      match verdict? buffer.bytes arrival with
      | some result => settled result s'
      | none => receiveWithin deadline reads .zero ⟨buffer.bytes ++ arrival.bytes⟩ s' := by
  cases arrival with
  | error fault => exact receiveWithin_of_fault h
  | ok chunk =>
      cases chunk with
      | none =>
          rw [receiveWithin_of_none h, Arrival.bytes, verdict?, Option.getD_none, List.append_nil,
            hwaiting]
          rfl
      | some chunk =>
          rw [receiveWithin_of_some hwaiting h, Arrival.bytes, verdict?, Option.getD_some]
          cases assemble (buffer.bytes ++ chunk) with
          | error e => rfl
          | ok assembly =>
              cases assembly with
              | incomplete => rfl
              | complete message => rfl

/-- With a read for each arrival and one more, waiting goes on until there is a verdict or
nothing is left. -/
theorem exists_concluded (deadline wait : Duration) {buffer : Buffer}
    (hwaiting : assemble buffer.bytes = .ok .incomplete) (s : Playback) :
    ∃ n result, receiveWithin deadline (s.reads.length + 1) wait buffer s
        = settled result (s.afterReading wait n) ∧
      Concluded deadline buffer.bytes s.reads n result := by
  induction hreads : s.reads generalizing s wait buffer with
  | nil =>
      refine ⟨0, _, ?_, .timeout buffer.bytes⟩
      rw [List.length_nil, receiveWithin_of_none (Playback.read_nil hreads wait),
        Playback.afterReading_zero]
      rfl
  | cons arrival rest ih =>
      have hread : receiveWithin deadline (rest.length + 1 + 1) wait buffer s = _ :=
        receiveWithin_of_read hwaiting (Playback.read_cons hreads wait) (rest.length + 1)
      rw [List.length_cons, hread]
      cases hverdict : verdict? buffer.bytes arrival with
      | some result => exact ⟨1, result, rfl, .verdict hverdict rest⟩
      | none =>
          -- The bytes are in the buffer, and what is left of the list decides.
          have hmore : assemble (Buffer.mk (buffer.bytes ++ Arrival.bytes arrival)).bytes
              = .ok .incomplete :=
            assemble_of_verdict?_eq_none hverdict
          have hrest : (s.afterReading wait 1).reads = rest := by
            simp [Playback.afterReading, hreads]
          rcases ih .zero hmore (s.afterReading wait 1) hrest with ⟨n, result, hlater, hends⟩
          rw [Playback.afterReading_succ] at hlater
          exact ⟨n + 1, result, hlater, .more hverdict hends⟩

theorem receive_playback {deadline : Duration} (hdeadline : deadline ≠ .zero) (s : Playback) :
    ∃ n result, receive deadline s = settled result (s.afterReading deadline n) ∧
      Concluded deadline [] s.reads n result := by
  have hreads : readsWithin deadline (Transport.backlog s) = s.reads.length + 1 := by
    rw [readsWithin, if_neg hdeadline]
    rfl
  have hreceive : receive deadline s
      = receiveWithin deadline (s.reads.length + 1) deadline .empty s :=
    congrArg (fun n => receiveWithin deadline n deadline .empty s) hreads
  rw [hreceive]
  exact exists_concluded deadline deadline assemble_nil s

/-- Without any time there is one read, and it has to bring the whole message. -/
theorem receive_zero (s : Playback) :
    receive .zero s = settled ((verdictAt [] s.reads 0).getD (.error (.transport (.timeout .zero))))
      (s.afterReading .zero (min 1 s.reads.length)) := by
  have hreceive : receive .zero s = receiveWithin .zero 1 .zero .empty s := rfl
  rw [hreceive]
  cases hreads : s.reads with
  | nil =>
      rw [receiveWithin_of_none (Playback.read_nil hreads .zero), List.length_nil, Nat.min_zero,
        Playback.afterReading_zero]
      rfl
  | cons arrival rest =>
      have hone : min 1 (arrival :: rest).length = 1 := by
        simp
      have hread : receiveWithin .zero (0 + 1) .zero .empty s = _ :=
        receiveWithin_of_read assemble_nil (Playback.read_cons hreads .zero) 0
      refine hread.trans ?_
      rw [verdictAt_zero, hone]
      change (match verdict? [] arrival with | some result => _ | none => _) = _
      cases verdict? [] arrival with
      | none => rfl
      | some result => rfl

/-- What the message of the token is split into, and what is wrong with it or was wrong before. -/
inductive SplitsInto : Except Error Bytes → Except Error Response → Prop where
  | failed (e : Error) : SplitsInto (.error e) (.error e)
  | missingStatus {message : Bytes} (h : message.length < 2) :
      SplitsInto (.ok message) (.error (.framing (.missingStatus message.length)))
  | response (payload : Bytes) (status : Status) :
      SplitsInto (.ok (payload ++ Bytes.bigEndian 2 status.code.toNat)) (.ok ⟨payload, status⟩)

theorem splitsInto_iff {outcome : Except Error Response} :
    SplitsInto result outcome
      ↔ outcome = (result >>= fun m => (Response.ofMessage m).mapError .framing) := by
  constructor
  · intro h
    cases h with
    | failed e => rfl
    | @missingStatus message h =>
        change _ = (Response.ofMessage message).mapError Error.framing
        rw [Response.ofMessage, if_pos h]
        rfl
    | response payload status =>
        change _ = (Response.ofMessage _).mapError Error.framing
        rw [ofMessage_append]
        rfl
  · rintro rfl
    cases result with
    | error e => exact .failed e
    | ok message =>
        change SplitsInto (.ok message) ((Response.ofMessage message).mapError .framing)
        cases hsplit : Response.ofMessage message with
        | ok response =>
            rw [eq_append_of_ofMessage hsplit]
            exact .response response.payload response.status
        | error e =>
            rw [Response.ofMessage] at hsplit
            by_cases hshort : message.length < 2
            · rw [if_pos hshort] at hsplit
              cases hsplit
              exact .missingStatus hshort
            · rw [if_neg hshort] at hsplit
              cases hsplit

/-- An exchange whose command was taken reads up to the first verdict, and no further; without
one it reads everything and times out.  What the reads bring in which pieces makes no difference
to the outcome.  Without any time there is one read.  Over any transport only the first read
waits, as long as the deadline is. -/
theorem perform_reads (timing : Timing) (command : Command) (s : Playback)
    (htaken : ∀ k < (reports command).length, faultAt s.writes k = none) :
    let timeout := timing.readTimeout
    let sent := s.afterOffering (reports command)
    (timeout ≠ .zero →
      (∀ k result, FirstVerdict [] s.reads k result → ∃ outcome, SplitsInto result outcome ∧
        perform timing command s = (outcome, sent.afterReading timeout (k + 1))) ∧
      ((∀ k, verdictAt [] s.reads k = none) →
        perform timing command s = (.error (.transport (.timeout timeout)),
          sent.afterReading timeout s.reads.length)) ∧
      ∀ reads', Regrouped s.reads reads' →
        (perform timing command { s with reads := reads' }).1 = (perform timing command s).1) ∧
    (timeout = .zero →
      ∃ outcome, SplitsInto
          ((verdictAt [] s.reads 0).getD (.error (.transport (.timeout .zero)))) outcome ∧
        perform timing command s = (outcome, sent.afterReading .zero (min 1 s.reads.length))) ∧
    ∀ (σ : Type) [Transport σ] (t t' : σ), send command t = .ok () t' →
      ∃ outcome t'' n, run timing command t = settled outcome t'' ∧ 0 < n ∧
        (timeout = .zero → n = 1) ∧ ReadsWith (waitsOf timeout n) t' t'' := by
  intro timeout sent
  have hsend : send command s = .ok () sent := send_finishes htaken
  refine ⟨?_, ?_, ?_⟩
  · intro hdeadline
    -- What is read comes to the same in every one of the three parts.
    rcases receive_playback hdeadline sent with ⟨n, result, hreceive, hends⟩
    have hperform := perform_of_run (run_of_receive hsend hreceive)
    refine ⟨?_, ?_, ?_⟩
    · intro k result' hfirst
      rcases hends.of_first hfirst with ⟨rfl, rfl⟩
      exact ⟨_, splitsInto_iff.2 rfl, hperform⟩
    · intro hnone
      rcases hends.of_none hnone with ⟨rfl, rfl⟩
      exact hperform
    · intro reads' hgroups
      have hsend' : send command { s with reads := reads' } = .ok () { sent with reads := reads' } :=
        send_finishes htaken
      rcases receive_playback hdeadline { sent with reads := reads' } with
        ⟨n', result', hreceive', hends'⟩
      have hsame : result' = result := by
        rw [hends.eq_concluded assemble_nil, hends'.eq_concluded assemble_nil,
          ← stream_eq_of_regrouped hgroups]
        rfl
      rw [perform_of_run (run_of_receive hsend' hreceive'), hperform, hsame]
  · intro hzero
    have hreceive := receive_zero sent
    rw [← hzero] at hreceive
    have hperform := perform_of_run (run_of_receive hsend hreceive)
    rw [hzero] at hperform
    exact ⟨_, splitsInto_iff.2 rfl, hperform⟩
  · intro σ _ t t' hsent
    rcases exists_receive_waits timeout t' with ⟨message, t'', n, hreceive, hreads, hsome, hone⟩
    exact ⟨_, t'', n, run_of_receive hsent hreceive, hsome, hone, hreads⟩

/-- A response in two pieces, with idle reads before and between them: a failure behind them is
not noticed. -/
theorem perform_reads_interrupted :
    let wire := Frame.wire [0xAA, 0x90, 0x00]
    let token : Playback := .ofOutcomes [] [.ok none, .ok (some (wire.take 3)), .ok (some []),
      .ok (some (wire.drop 3)), .error .unplugged]
    let command : Command := ⟨0x80, 0x04, 0x00, 0x81, [0x01, 0x02], by decide⟩
    (∀ k < (reports command).length, faultAt token.writes k = none) ∧
    ∃ left : Playback, perform Timing.default command token = (.ok ⟨[0xAA], .success⟩, left) ∧
      left.reads = [.error .unplugged] ∧
      left.waits = [Timing.default.readTimeout, .zero, .zero, .zero] := by
  intro wire token command
  have htaken : ∀ k < (reports command).length, faultAt token.writes k = none := by
    intro k _
    rfl
  have hdeadline : Timing.default.readTimeout ≠ .zero := by
    decide
  have hmessage : assemble wire = .ok (.complete [0xAA, 0x90, 0x00]) := by
    simpa using Frame.assemble_wire (m := [0xAA, 0x90, 0x00]) (by decide) []
  have hcut : assemble (wire.take 3) = .ok .incomplete :=
    (Reading.short (by decide)).assemble_eq
  have hfirst : FirstVerdict [] token.reads 3 (.ok [0xAA, 0x90, 0x00]) := by
    refine ⟨?_, ?_⟩
    · change final? (assemble (wire.take 3 ++ wire.drop 3)) = _
      rw [List.take_append_drop, hmessage]
      rfl
    · intro j hj
      match j, hj with
      | 0, _ => exact final?_eq_none_iff.2 assemble_nil
      | 1, _ => exact final?_eq_none_iff.2 hcut
      | 2, _ => exact final?_eq_none_iff.2 hcut
  refine ⟨htaken, ?_⟩
  rcases ((perform_reads Timing.default command token htaken).1 hdeadline).1 3 _ hfirst with
    ⟨outcome, hsplit, hperform⟩
  have houtcome : outcome = .ok ⟨[0xAA], .success⟩ := splitsInto_iff.1 hsplit
  rw [houtcome] at hperform
  exact ⟨_, hperform, rfl, rfl⟩

end Exchange

end TokenAgent
