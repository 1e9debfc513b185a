import TokenAgent.Proofs.Exchange.Sequence
import TokenAgent.Proofs.Transport.Playback

/-!
# The reports of a command

A command is offered to the transport report by report.  Sending stops at the first report that
is not taken whole, and then nothing is read (`Exchange.perform_offers`).  If all of them are
taken, what the transport was offered is one message, and the command can be read off it.

Transports are followed here through all outcomes that their writes can have
(`Playback`).
-/

namespace TokenAgent

/-- Class, instruction, parameters and payload have their places in the wire form. -/
theorem Command.toBytes_injective {c c' : Command} (h : c.toBytes = c'.toBytes) : c = c' := by
  rcases c with ⟨cla, ins, p1, p2, payload, fits⟩
  rcases c' with ⟨cla', ins', p1', p2', payload', fits'⟩
  simp only [toBytes, List.cons_append, List.nil_append, List.cons.injEq] at h
  rcases h with ⟨rfl, rfl, rfl, rfl, _, rfl⟩
  rfl

namespace Exchange

open TokenAgent.Frame Running

/-- The reports that carry a command, in order. -/
def reports (command : Command) : List Bytes :=
  (packets command.toBytes).map Packet.toReport

theorem report_spec {command : Command} {report : Bytes} (h : report ∈ reports command) :
    report.length = reportSize ∧ report.head? = some reportId := by
  rcases List.mem_map.1 h with ⟨p, hmem, rfl⟩
  have hsize := Packet.length_toBytes (body_length_le hmem)
  exact ⟨congrArg Nat.succ hsize, rfl⟩

/-- Without their report ids the reports are the packets. -/
theorem flatMap_tail_reports (command : Command) :
    (reports command).flatMap List.tail = (packets command.toBytes).flatMap Packet.toBytes := by
  rw [reports, List.flatMap_map]
  rfl

/-! ## Outcomes of writes -/

/-- Why the outcome of a write ends an exchange, if it does: the transport failed, or it did not
take exactly the bytes of a report. -/
def writeFault? : Except TransportFault Nat → Option TransportFault
  | .ok accepted =>
      if accepted = reportSize then none else some (.shortWrite accepted reportSize)
  | .error fault => some fault

/-- Why write number `k` ends an exchange, if it does.  Past the end of the list everything is
taken. -/
def faultAt (outcomes : List (Except TransportFault Nat)) (k : Nat) : Option TransportFault :=
  outcomes[k]?.bind writeFault?

/-- Of the first `n` writes number `k` is the first that ends an exchange. -/
structure FirstFault (outcomes : List (Except TransportFault Nat)) (n k : Nat)
    (fault : TransportFault) : Prop where
  inside : k < n
  fault : faultAt outcomes k = some fault
  first : ∀ j < k, faultAt outcomes j = none

variable {s : Playback} {p : Packet} {ps : List Packet}

theorem faultAt_zero (outcomes : List (Except TransportFault Nat)) :
    faultAt outcomes 0 = writeFault? (outcomes.head?.getD (.ok reportSize)) := by
  cases outcomes with
  | nil => rfl
  | cons outcome rest => rfl

theorem faultAt_tail (outcomes : List (Except TransportFault Nat)) (k : Nat) :
    faultAt outcomes.tail k = faultAt outcomes (k + 1) := by
  rw [faultAt, faultAt, List.getElem?_tail]

/-- One report takes one outcome, which tells whether sending goes on. -/
theorem offer_playback (hroom : p.body.length ≤ laterRoom) :
    offer p s = settled
      (match faultAt s.writes 0 with
      | none => .ok ()
      | some fault => .error (.transport (.writeFailed fault)))
      (s.afterOffering [p.toReport]) := by
  have hsize : p.toReport.length = reportSize := congrArg Nat.succ (Packet.length_toBytes hroom)
  have hwrite := Playback.write_eq p.toReport s
  rw [hsize] at hwrite
  rw [faultAt_zero]
  cases houtcome : s.writes.head?.getD (.ok reportSize) with
  | error fault =>
      rw [houtcome] at hwrite
      exact bind_error (adaptExcept_error hwrite)
  | ok accepted =>
      have htaken : ((Transport.write p.toReport).adaptExcept
          fun fault => Error.transport (.writeFailed fault)) s
            = .ok accepted (s.afterOffering [p.toReport]) := by
        rw [houtcome] at hwrite
        exact adaptExcept_ok hwrite
      rw [offer, bind_ok htaken, hsize, writeFault?]
      by_cases hwhole : accepted = reportSize
      · rw [if_pos hwhole, if_pos hwhole]
        rfl
      · rw [if_neg hwhole, if_neg hwhole]
        rfl

/-! ## All reports -/

theorem forM_offer_stops {k : Nat} {fault : TransportFault}
    (hrooms : ∀ p ∈ ps, p.body.length ≤ laterRoom) (h : FirstFault s.writes ps.length k fault) :
    ps.forM offer s = .error (.transport (.writeFailed fault))
      (s.afterOffering ((ps.map Packet.toReport).take (k + 1))) := by
  induction ps generalizing s k with
  | nil => exact absurd h.inside (Nat.not_lt_zero k)
  | cons p rest ih =>
      have hoffer := offer_playback (s := s) (hrooms p List.mem_cons_self)
      cases k with
      | zero =>
          rw [h.fault] at hoffer
          exact bind_error hoffer
      | succ k =>
          rw [h.first 0 (Nat.succ_pos k)] at hoffer
          -- This report is taken, so the fault is one write nearer.
          have hnearer : FirstFault (s.afterOffering [p.toReport]).writes rest.length k fault := by
            rw [Playback.writes_afterOffering]
            refine ⟨Nat.lt_of_succ_lt_succ h.inside, ?_, ?_⟩
            · rw [faultAt_tail, h.fault]
            · intro j hj
              rw [faultAt_tail, h.first (j + 1) (Nat.succ_lt_succ hj)]
          have hrest := ih (fun q hmem => hrooms q (List.mem_cons_of_mem p hmem)) hnearer
          refine (bind_ok hoffer).trans (hrest.trans ?_)
          rw [Playback.afterOffering_append]
          rfl

theorem forM_offer_finishes (hrooms : ∀ p ∈ ps, p.body.length ≤ laterRoom)
    (hall : ∀ k < ps.length, faultAt s.writes k = none) :
    ps.forM offer s = .ok () (s.afterOffering (ps.map Packet.toReport)) := by
  induction ps generalizing s with
  | nil =>
      change EStateM.Result.ok () s = _
      simp [Playback.afterOffering]
  | cons p rest ih =>
      have hoffer := offer_playback (s := s) (hrooms p List.mem_cons_self)
      rw [hall 0 (Nat.succ_pos rest.length)] at hoffer
      have hlater : ∀ k < rest.length, faultAt (s.afterOffering [p.toReport]).writes k = none := by
        intro k hk
        rw [Playback.writes_afterOffering, faultAt_tail]
        exact hall (k + 1) (Nat.succ_lt_succ hk)
      have hrest := ih (fun q hmem => hrooms q (List.mem_cons_of_mem p hmem)) hlater
      refine (bind_ok hoffer).trans (hrest.trans ?_)
      rw [Playback.afterOffering_append]
      rfl

theorem send_finishes {command : Command}
    (hall : ∀ k < (reports command).length, faultAt s.writes k = none) :
    send command s = .ok () (s.afterOffering (reports command)) := by
  rw [reports, List.length_map] at hall
  rw [send_eq]
  exact forM_offer_finishes (fun p hmem => body_length_le hmem) hall

/-- The reports of a command are offered in their order up to the first that is not taken whole,
which is the failure of the exchange; the outcomes of reads are not touched then.  If all of them
are taken, they are what was offered.  Each of them is a packet behind the report id, and the
packets together are the command and no other. -/
theorem perform_offers (timing : Timing) (command : Command) (s : Playback) :
    let reports := reports command
    (∀ k fault, FirstFault s.writes reports.length k fault →
      perform timing command s = (.error (.transport (.writeFailed fault)), { s with
        writes := s.writes.drop (k + 1)
        offered := s.offered ++ reports.take (k + 1) })) ∧
    ((∀ k < reports.length, faultAt s.writes k = none) →
      send command s = .ok () { s with
        writes := s.writes.drop reports.length
        offered := s.offered ++ reports } ∧
      (perform timing command s).2.offered = s.offered ++ reports) ∧
    (∀ report ∈ reports, report.length = 65 ∧ report.head? = some 0x00) ∧
    assemble (reports.flatMap List.tail) = .ok (.complete command.toBytes) ∧
    ∀ other : Command,
      assemble (reports.flatMap List.tail) = .ok (.complete other.toBytes) → other = command := by
  intro all
  have hmessage : assemble (all.flatMap List.tail) = .ok (.complete command.toBytes) := by
    rw [flatMap_tail_reports]
    exact assemble_packets command.length_toBytes_le
  refine ⟨?_, ?_, ?_, hmessage, ?_⟩
  · intro k fault hfirst
    have hfirst' : FirstFault s.writes (packets command.toBytes).length k fault := by
      simpa [all, reports] using hfirst
    have hsend : send command s = .error (.transport (.writeFailed fault))
        (s.afterOffering (all.take (k + 1))) := by
      rw [send_eq]
      exact forM_offer_stops (fun p hmem => body_length_le hmem) hfirst'
    have hcount : (all.take (k + 1)).length = k + 1 :=
      List.length_take_of_le (Nat.succ_le_of_lt hfirst.inside)
    have hrun : run timing command s = settled (.error (.transport (.writeFailed fault)))
        (s.afterOffering (all.take (k + 1))) := bind_error hsend
    rw [perform_of_run hrun, Playback.afterOffering, hcount]
  · intro hall
    have hsend := send_finishes hall
    refine ⟨hsend, ?_⟩
    -- What is done after sending is reading.
    rcases exists_receive timing.readTimeout (s.afterOffering all) with
      ⟨message, s', hreceive, hreads⟩
    rw [perform_of_run (run_of_receive hsend hreceive)]
    exact Playback.offered_of_readsTo hreads
  · intro report hmem
    exact report_spec hmem
  · intro other hother
    have hsame := hmessage.symm.trans hother
    injection hsame with hsame
    injection hsame with hsame
    exact (Command.toBytes_injective hsame).symm

end Exchange

end TokenAgent
