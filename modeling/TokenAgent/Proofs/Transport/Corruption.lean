import TokenAgent.Proofs.Transport.Runs

/-!
# Tokens that took in a fault

A simulated token drops what it has taken in when a command is complete, and at no other time.  A
packet that violates the framing therefore stays in front of everything that is written later,
and no command is complete ever again: one fault disables the token for good.

* `Simulator.Jammed` — what a token has taken in is at fault;
* `Simulator.Jammed.write_eq`, `Simulator.Jammed.deliver_eq` — the fault answers every later
  report, and every later command, however well-formed;
* `Simulator.Jammed.run` — no step of any kind clears it;
* `Simulator.corrupt_for_good` — all this of every token that has refused a report for its fault.
-/

namespace TokenAgent

namespace Simulator

open TokenAgent.Frame Running

variable {s s' : Simulator} {e : FramingError} {report : Bytes}

/-- The token works, and what it has taken in is at fault. -/
structure Jammed (e : FramingError) (s : Simulator) : Prop where
  works : s.failWrites = false
  fault : assemble s.incoming.bytes = .error e

/-- The report that is refused for its fault stays in the token. -/
theorem jammed_of_write (h : write report s = .error (.corrupt e) s') : Jammed e s' := by
  have hsettled : write report s = settled (.error (.corrupt e)) s' := h
  cases written_of_write hsettled with
  | corrupt hworks _ hassemble => exact ⟨hworks, hassemble⟩

namespace Jammed

/-- The fault is found again behind whatever is added. -/
theorem assemble_eq (h : Jammed e s) (more : Bytes) :
    assemble (s.incoming.bytes ++ more) = .error e := by
  have hfinal : assemble s.incoming.bytes ≠ .ok .incomplete := by
    simp [h.fault]
  rw [assemble_append hfinal, h.fault]

theorem write_eq (h : Jammed e s) (hreport : IsReport report) :
    write report s
      = .error (.corrupt e) { s with incoming := ⟨s.incoming.bytes ++ report.tail⟩ } := by
  rw [write_of_good h.works hreport.not_malformed, Buffer.push, h.assemble_eq]

/-- A command is refused with its first packet. -/
theorem deliver_eq (h : Jammed e s) (m : Bytes) :
    ∃ buffer, deliver (packets m) s = .error (.corrupt e) { s with incoming := buffer } := by
  cases hpackets : packets m with
  | nil => cases hpackets
  | cons first later =>
      have hreport : IsReport first.toReport := by
        apply isReport_toReport
        apply body_length_le (m := m)
        rw [hpackets]
        exact List.mem_cons_self
      refine ⟨⟨s.incoming.bytes ++ first.toReport.tail⟩, ?_⟩
      exact bind_error (bind_error (h.write_eq hreport))

/-- Whatever is written, well-formed or not, it is only ever added to what was taken in. -/
theorem next_write (h : Jammed e s) (report : Bytes) :
    ∃ buffer, s.next (.write report) = { s with incoming := buffer } ∧
      assemble buffer.bytes = .error e := by
  rcases written_write report s with ⟨outcome, s', hwrite, hwritten⟩
  rw [Simulator.next_write hwrite]
  cases hwritten with
  | unplugged _ => exact ⟨s.incoming, rfl, h.fault⟩
  | malformed _ _ => exact ⟨s.incoming, rfl, h.fault⟩
  | corrupt _ _ _ => exact ⟨_, rfl, h.assemble_eq report.tail⟩
  | waiting _ _ hassemble =>
      rw [h.assemble_eq] at hassemble
      cases hassemble
  | command _ _ hassemble =>
      rw [h.assemble_eq] at hassemble
      cases hassemble

/-- No step clears the fault, completes a command or takes an entry of the script. -/
theorem next (h : Jammed e s) (step : Step) :
    Jammed e (s.next step) ∧ (s.next step).commands = s.commands ∧
      s.script <+: (s.next step).script := by
  cases step with
  | queue reply => exact ⟨⟨h.works, h.fault⟩, rfl, List.prefix_append s.script [reply]⟩
  | queueResponse payload status =>
      rcases queueResponse_eq s payload status with ⟨more, hqueue⟩
      rw [Simulator.next, hqueue]
      exact ⟨⟨h.works, h.fault⟩, rfl, List.prefix_append s.script more⟩
  | write report =>
      rcases h.next_write report with ⟨buffer, hnext, hfault⟩
      rw [hnext]
      exact ⟨⟨h.works, hfault⟩, rfl, List.prefix_rfl⟩
  | read =>
      rw [Simulator.next, Simulator.read]
      cases s.pending with
      | nil => exact ⟨h, rfl, List.prefix_rfl⟩
      | cons chunk rest => exact ⟨⟨h.works, h.fault⟩, rfl, List.prefix_rfl⟩

theorem run (h : Jammed e s) (steps : List Step) :
    Jammed e (s.run steps) ∧ (s.run steps).commands = s.commands ∧
      s.script <+: (s.run steps).script := by
  refine run_induction (motive := fun now =>
    Jammed e now ∧ now.commands = s.commands ∧ s.script <+: now.script)
    ⟨h, rfl, List.prefix_rfl⟩ ?_ steps
  rintro now step ⟨hjammed, hcommands, hscript⟩
  rcases hjammed.next step with ⟨hnext, hsame, hprefix⟩
  exact ⟨hnext, hsame.trans hcommands, hscript.trans hprefix⟩

end Jammed

/-- Once a token has refused a report for its fault, it refuses every later report and every
later command for the same fault, whatever else is done with it.  What is written only goes to
the buffer of what was taken in: no command is received, no entry of the script is taken, and
what there is to be read is what there was. -/
theorem corrupt_for_good (h : write report s = .error (.corrupt e) s') (steps : List Step) :
    let token : Simulator := s'.run steps
    (∀ later, IsReport later →
      ∃ buffer, write later token = .error (.corrupt e) { token with incoming := buffer }) ∧
    (∀ command, ∃ buffer, deliver (packets command) token
      = .error (.corrupt e) { token with incoming := buffer }) ∧
    (∀ later, ∃ buffer, token.next (.write later) = { token with incoming := buffer }) ∧
    token.commands = s.commands ∧ s.script <+: token.script ∧
    chunksRead s' steps ++ token.pending = s.pending := by
  intro token
  have hjammed : Jammed e s' := jammed_of_write h
  rcases hjammed.run steps with ⟨hstill, hcommands, hscript⟩
  rcases write_error h with ⟨hcommands', hscript', hpending', _⟩
  refine ⟨?_, ?_, ?_, ?_, ?_, ?_⟩
  · intro later hreport
    exact ⟨_, hstill.write_eq hreport⟩
  · intro command
    exact hstill.deliver_eq command
  · intro later
    rcases hstill.next_write later with ⟨buffer, hnext, _⟩
    exact ⟨buffer, hnext⟩
  · exact hcommands.trans hcommands'
  · rw [← hscript']
    exact hscript
  · rw [← hpending']
    exact chunksRead_append_pending hcommands

/-- The first packet of a long command, sent twice: the second one is out of order.  The token
has a reply left and a chunk unread, and a new command from its first packet on changes nothing
of that. -/
theorem corrupt_for_good_repeated :
    let first : Packet := ⟨0, Bytes.bigEndian 2 60 ++ List.replicate 57 0xAA⟩
    let before : Simulator :=
      { fresh with incoming := ⟨first.toBytes⟩, script := [.silence], pending := [[0xBB]] }
    let after : Simulator := { before with incoming := ⟨first.toBytes ++ first.toBytes⟩ }
    write first.toReport before = .error (.corrupt (.sequenceMismatch 1 0)) after ∧
    ∃ buffer, deliver (packets [0xCC]) (after.run [.queue .silence])
      = .error (.corrupt (.sequenceMismatch 1 0))
          { before with incoming := buffer, script := [.silence, .silence] } := by
  intro first before after
  have hwrite : write first.toReport before
      = .error (.corrupt (.sequenceMismatch 1 0)) after := by
    have hreport : IsReport first.toReport := isReport_toReport (by decide)
    have hfault : assemble (first.toBytes ++ first.toBytes) = .error (.sequenceMismatch 1 0) := by
      decide +kernel
    rw [write_of_good rfl hreport.not_malformed]
    simp only [Buffer.push, Packet.toReport, List.tail_cons, before, hfault, after]
  rcases (corrupt_for_good hwrite [.queue .silence]).2.1 [0xCC] with ⟨buffer, hdeliver⟩
  exact ⟨hwrite, buffer, hdeliver⟩

end Simulator

end TokenAgent
