import TokenAgent.Proofs.Exchange.Pairing

/-!
# Output that was left unread

A token behind a queue may still hold output when a command is sent.  An exchange takes it for
the beginning of the answer: its outcome is told by what was left and the reply together
(`Exchange.perform_of_answers`).  What was left can make no difference only if it is empty, and
where it already amounts to an answer, or to a fault, the reply is not looked at
(`Exchange.perform_with_leftovers`).

The simulated token is not concerned: it drops its unread output when a command is complete
(`Simulator.receive_eq`).
-/

namespace TokenAgent

namespace Exchange

open TokenAgent.Frame Running Transport

/-! ## What the answers are read from -/

/-- A message of the token is the payload of its response and the status word behind it. -/
theorem eq_append_of_ofMessage {message : Bytes} {response : Response}
    (h : Response.ofMessage message = .ok response) :
    message = response.payload ++ Bytes.bigEndian 2 response.status.code.toNat := by
  rw [Response.ofMessage] at h
  by_cases hshort : message.length < 2
  · rw [if_pos hshort] at h
    cases h
  · rw [if_neg hshort] at h
    cases h
    have hstatus : (message.drop (message.length - 2)).length = 2 := by
      rw [List.length_drop]
      omega
    have hword : Bytes.ofBigEndian (message.drop (message.length - 2)) < 2 ^ 16 := by
      simpa [hstatus] using Bytes.ofBigEndian_lt (message.drop (message.length - 2))
    have hcode : Bytes.bigEndian 2 (Bytes.ofBigEndian (message.drop (message.length - 2)))
        = message.drop (message.length - 2) := by
      simpa [hstatus] using Bytes.bigEndian_ofBigEndian (message.drop (message.length - 2))
    simp only [UInt16.toNat_ofNat_of_lt' hword, hcode, List.take_append_drop]

/-- A response is read from the front of what arrives. -/
theorem eq_wire_of_answered {deadline : Duration} {raw m : Bytes} {response : Response}
    (hm : Response.ofMessage m = .ok response)
    (h : answered deadline (some (.raw raw)) = .ok response) : ∃ rest, raw = wire m ++ rest := by
  rw [answered_eq, Simulator.handedOut] at h
  cases hraw : assemble raw with
  | error e =>
      rw [hraw] at h
      cases h
  | ok assembly =>
      rw [hraw] at h
      cases assembly with
      | incomplete => cases h
      | complete message =>
          have hmessage : Response.ofMessage message = .ok response := by
            cases hof : Response.ofMessage message with
            | error e => simp [awaited, hof, bind, Except.bind, Except.mapError] at h
            | ok found => simpa [awaited, hof, bind, Except.bind, Except.mapError] using h
          have hsame : message = m :=
            (eq_append_of_ofMessage hmessage).trans (eq_append_of_ofMessage hm).symm
          rw [← hsame]
          exact (eq_wire_of_assemble hraw).2

theorem answered_append {deadline : Duration} {stale : Bytes}
    (hfinal : assemble stale ≠ .ok .incomplete) (reply : Bytes) :
    answered deadline (some (.raw (stale ++ reply))) = answered deadline (some (.raw stale)) := by
  rw [answered, answered, assemble_append hfinal]

/-- What may stand before an answer without changing it can only be more of the answer. -/
theorem append_wire_of_answered {deadline : Duration} {stale m : Bytes} {response : Response}
    (hfits : m.length ≤ maxMessage) (hm : Response.ofMessage m = .ok response)
    (h : answered deadline (some (.raw (stale ++ wire m)))
      = answered deadline (some (.raw (wire m)))) : ∃ rest, stale ++ wire m = wire m ++ rest := by
  -- The answer alone gives the response, so with these bytes before it, it still has to be read.
  have halone : answered deadline (some (.raw (wire m))) = .ok response := by
    rw [answered_wire deadline hfits, hm]
    rfl
  exact eq_wire_of_answered hm (h.trans halone)

/-- An answer that was left is taken for the next one. -/
theorem answered_wire_append (deadline : Duration) {m : Bytes} (hfits : m.length ≤ maxMessage)
    (reply : Bytes) : answered deadline (some (.raw (wire m ++ reply)))
      = (Response.ofMessage m).mapError .framing := by
  have hwhole : assemble (wire m) = .ok (.complete m) := by
    simpa using assemble_wire hfits []
  have hfinal : assemble (wire m) ≠ .ok .incomplete := by
    simp [hwhole]
  rw [answered_append hfinal, answered_wire deadline hfits]

/-- Bytes that make no difference to any reply are none: two replies of different lengths
cannot both go on as these bytes begin. -/
theorem eq_nil_of_answered {deadline : Duration} {stale : Bytes}
    (h : ∀ reply, answered deadline (some (.raw (stale ++ reply)))
      = answered deadline (some (.raw reply))) : stale = [] := by
  -- A status alone, and the same with one byte of payload before it.
  rcases append_wire_of_answered (m := [0x90, 0x00]) (by decide) rfl (h _) with ⟨rest, hstatus⟩
  rcases append_wire_of_answered (m := [0xAA, 0x90, 0x00]) (by decide) rfl (h _) with
    ⟨rest', hpayload⟩
  have hwire : wire [0x90, 0x00] = [1, 1, 5, 0, 0, 0, 2, 0x90, 0x00] :=
    wire_of_le (by decide)
  have hwire' : wire [0xAA, 0x90, 0x00] = [1, 1, 5, 0, 0, 0, 3, 0xAA, 0x90, 0x00] :=
    wire_of_le (by decide)
  rw [hwire] at hstatus
  rw [hwire'] at hpayload
  rcases stale with _ | ⟨a, _ | ⟨b, _ | ⟨c, _ | ⟨d, _ | ⟨e, _ | ⟨f, _ | ⟨g, more⟩⟩⟩⟩⟩⟩⟩
  · rfl
  -- Behind six bytes or less the reply starts inside the header, where no packet starts.
  iterate 6 · simp at hstatus
  · -- The seventh byte would have to declare both lengths.
    have htwo : some g = some 2 := congrArg (fun bytes => bytes[6]?) hstatus
    have hthree : some g = some 3 := congrArg (fun bytes => bytes[6]?) hpayload
    exact absurd (htwo.symm.trans hthree) (by decide)

/-! ## Behind a queue -/

section Fifo

variable {σ : Type} [Transport σ] {waiting : σ → List Bytes} {timing : Timing}
  {command : Command} {s t : σ} {reply : List Bytes}

/-- Sent from state `s`, the command leaves state `t`, with the reply to it behind all that
waited before. -/
structure Answers (waiting : σ → List Bytes) (command : Command) (s t : σ)
    (reply : List Bytes) : Prop where
  sent : send command s = .ok () t
  queued : waiting t = waiting s ++ reply

/-- What was left and the reply together tell what the exchange comes to. -/
theorem perform_of_answers (hfifo : IsFifo waiting) (hdeadline : timing.readTimeout ≠ .zero)
    (h : Answers waiting command s t reply) :
    (perform timing command s).1
      = answered timing.readTimeout (some (.raw ((waiting s).flatten ++ reply.flatten))) := by
  -- The command is out: what is left to do is to wait for what is queued now.
  rcases receive_fifo hfifo hdeadline t with ⟨s', hreceive, _⟩
  have hrun : run timing command s
      = settled (answered timing.readTimeout (some (.raw (waiting t).flatten))) s' := by
    rw [answered_eq]
    exact run_of_receive h.sent hreceive
  rw [perform_of_run hrun, h.queued, List.flatten_append]

end Fifo

/-! ## A device behind a queue -/

/-- A device behind a queue: it takes every report whole, and makes the next of its answers to
it wait behind what waits already. -/
structure Pipe where
  waiting : List Bytes
  answers : List (List Bytes)
  deriving DecidableEq, Repr

namespace Pipe

def write (report : Bytes) : EStateM TransportFault Pipe Nat := fun s =>
  .ok report.length ⟨s.waiting ++ s.answers.headD [], s.answers.tail⟩

def read : EStateM TransportFault Pipe (Option Bytes) := fun s =>
  match s.waiting with
  | [] => .ok none s
  | chunk :: rest => .ok (some chunk) { s with waiting := rest }

instance : Transport Pipe where
  write := write
  read _ := read
  backlog s := s.waiting.length

theorem isFifo_waiting : IsFifo Pipe.waiting where
  dry := by
    intro s hdry wait
    refine ⟨s, ?_, hdry⟩
    change read s = _
    rw [read, hdry]
  next := by
    intro s chunk rest hnext wait
    refine ⟨{ s with waiting := rest }, ?_, rfl⟩
    change read s = _
    rw [read, hnext]
  backlog := by
    intro s
    rfl

/-- A command that one report carries takes one answer. -/
theorem answers_of_le (command : Command) (hshort : command.toBytes.length ≤ firstRoom)
    (s : Pipe) :
    Answers Pipe.waiting command s ⟨s.waiting ++ s.answers.headD [], s.answers.tail⟩
      (s.answers.headD []) := by
  have hone : packets command.toBytes = [⟨0, Bytes.bigEndian 2 command.toBytes.length
      ++ command.toBytes.take firstRoom⟩] := by
    rw [packets, List.drop_eq_nil_of_le hshort, Bytes.chunks_nil]
    rfl
  refine ⟨?_, rfl⟩
  rw [send_eq, hone]
  exact bind_ok (offer_of_write rfl)

end Pipe

/-! ## An answer that comes too late -/

/-- An exchange over a queue comes to what its leftovers and its reply together amount to.
Leftovers that amount to an answer, or to a fault, are taken for the outcome whatever the reply
is.  Only where nothing is left does the outcome always depend on the reply alone. -/
theorem perform_with_leftovers {σ : Type} [Transport σ] {waiting : σ → List Bytes}
    (hfifo : IsFifo waiting) (timing : Timing) (command : Command)
    (hdeadline : timing.readTimeout ≠ .zero) :
    (∀ s t reply, Answers waiting command s t reply →
      (perform timing command s).1
        = answered timing.readTimeout (some (.raw ((waiting s).flatten ++ reply.flatten))) ∧
      (assemble (waiting s).flatten ≠ .ok .incomplete →
        (perform timing command s).1
          = answered timing.readTimeout (some (.raw (waiting s).flatten)))) ∧
    ∀ stale, (∀ reply, answered timing.readTimeout (some (.raw (stale ++ reply)))
      = answered timing.readTimeout (some (.raw reply))) ↔ stale = [] := by
  constructor
  · intro s t reply h
    have houtcome := perform_of_answers hfifo hdeadline h
    refine ⟨houtcome, ?_⟩
    intro hfinal
    rw [houtcome, answered_append hfinal]
  · intro stale
    constructor
    · exact eq_nil_of_answered
    · rintro rfl reply
      rfl

/-- A signature that was waited for in vain is taken for the one that was asked for next. -/
theorem perform_with_late_answer :
    let device : Pipe := ⟨[wire [0xAA, 0x90, 0x00]], [[wire [0xBB, 0x90, 0x00]]]⟩
    let command : Command := ⟨0x80, 0x04, 0x00, 0x81, [0x61, 0x62, 0x63], by decide⟩
    (IsFifo Pipe.waiting ∧ Timing.default.readTimeout ≠ .zero) ∧
    (perform Timing.default command device).1 = .ok ⟨[0xAA], .success⟩ := by
  intro device command
  have hdeadline : Timing.default.readTimeout ≠ .zero := by decide
  have hanswers := Pipe.answers_of_le command (by decide) device
  have hleft : device.waiting.flatten = wire [0xAA, 0x90, 0x00] := List.append_nil _
  refine ⟨⟨Pipe.isFifo_waiting, hdeadline⟩, ?_⟩
  rw [((perform_with_leftovers Pipe.isFifo_waiting Timing.default command hdeadline).1
    device _ _ hanswers).1, hleft, answered_wire_append _ (by decide)]
  rfl

/-- So an exchange behind a queue may come to another outcome than the same exchange with
nothing left. -/
theorem not_perform_eq_of_dry :
    ¬ ∀ (σ : Type) (_ : Transport σ) (waiting : σ → List Bytes), IsFifo waiting →
      ∀ (timing : Timing) (command : Command) (s t s₀ t₀ : σ) (reply : List Bytes),
        timing.readTimeout ≠ .zero → waiting s₀ = [] →
        Answers waiting command s t reply → Answers waiting command s₀ t₀ reply →
          (perform timing command s).1 = (perform timing command s₀).1 := by
  intro h
  let command : Command := ⟨0x80, 0x04, 0x00, 0x81, [0x61, 0x62, 0x63], by decide⟩
  let late : Pipe := ⟨[wire [0xAA, 0x90, 0x00]], [[wire [0xBB, 0x90, 0x00]]]⟩
  let dry : Pipe := ⟨[], [[wire [0xBB, 0x90, 0x00]]]⟩
  have hdeadline : Timing.default.readTimeout ≠ .zero := by decide
  have hlate := Pipe.answers_of_le command (by decide) late
  have hdry := Pipe.answers_of_le command (by decide) dry
  have hsame := h Pipe inferInstance Pipe.waiting Pipe.isFifo_waiting Timing.default command
    late _ dry _ _ hdeadline rfl hlate hdry
  have hold : (perform Timing.default command late).1 = .ok ⟨[0xAA], .success⟩ := by
    have hleft : late.waiting.flatten = wire [0xAA, 0x90, 0x00] := List.append_nil _
    rw [perform_of_answers Pipe.isFifo_waiting hdeadline hlate, hleft,
      answered_wire_append _ (by decide)]
    rfl
  have hnew : (perform Timing.default command dry).1 = .ok ⟨[0xBB], .success⟩ := by
    have hreply : dry.waiting.flatten ++ (dry.answers.headD []).flatten
        = wire [0xBB, 0x90, 0x00] := List.append_nil _
    rw [perform_of_answers Pipe.isFifo_waiting hdeadline hdry, hreply,
      answered_wire _ (by decide)]
    rfl
  rw [hold, hnew] at hsame
  exact absurd hsame (by decide)

end Exchange

end TokenAgent
