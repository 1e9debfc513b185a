import TokenAgent.Proofs.Exchange.Receiving
import TokenAgent.Transport.Playback

/-!
# Transports that follow lists

A write or a read of a transport that follows lists takes the outcome that is next, and leaves a
record of itself.  The states that this leads to are named here: `Playback.afterOffering` and
`Playback.afterReading`.
-/

namespace TokenAgent

namespace Playback

open Running Transport

/-! ## Writes -/

/-- The transport when it was offered some more reports. -/
def afterOffering (s : Playback) (reports : List Bytes) : Playback :=
  { s with writes := s.writes.drop reports.length, offered := s.offered ++ reports }

theorem afterOffering_append (s : Playback) (earlier later : List Bytes) :
    (s.afterOffering earlier).afterOffering later = s.afterOffering (earlier ++ later) := by
  simp [afterOffering, List.drop_drop]

theorem writes_afterOffering (s : Playback) (report : Bytes) :
    (s.afterOffering [report]).writes = s.writes.tail := by
  simp [afterOffering]

/-- Past the end of the list a report is taken whole. -/
theorem write_eq (report : Bytes) (s : Playback) :
    Transport.write report s
      = settled (s.writes.head?.getD (.ok report.length)) (s.afterOffering [report]) := by
  change Playback.write report s = _
  rw [Playback.write, afterOffering]
  cases hwrites : s.writes with
  | nil => rfl
  | cons outcome rest =>
      cases outcome with
      | error fault => rfl
      | ok accepted => rfl

/-! ## Reads -/

/-- The transport when some more reads were made, of which only the first waits. -/
def afterReading (s : Playback) (wait : Duration) (n : Nat) : Playback :=
  { s with reads := s.reads.drop n, waits := s.waits ++ Exchange.waitsOf wait n }

theorem afterReading_zero (s : Playback) (wait : Duration) : s.afterReading wait 0 = s := by
  simp [afterReading, Exchange.waitsOf]

theorem afterReading_succ (s : Playback) (wait : Duration) (n : Nat) :
    (s.afterReading wait 1).afterReading .zero n = s.afterReading wait (n + 1) := by
  rw [afterReading, Exchange.waitsOf_zero]
  simp [afterReading, Exchange.waitsOf]

theorem read_nil {s : Playback} (h : s.reads = []) (wait : Duration) :
    Transport.read wait s = .ok none s := by
  change Playback.read wait s = _
  rw [Playback.read, h]

theorem read_cons {s : Playback} {arrival : Except TransportFault (Option Bytes)}
    {rest : List (Except TransportFault (Option Bytes))} (h : s.reads = arrival :: rest)
    (wait : Duration) : Transport.read wait s = settled arrival (s.afterReading wait 1) := by
  change Playback.read wait s = _
  rw [Playback.read, h, afterReading, h]
  cases arrival with
  | error fault => rfl
  | ok chunk => rfl

/-- Reads have no part in what was offered. -/
theorem offered_of_readsTo {s s' : Playback} (h : ReadsTo s s') : s'.offered = s.offered := by
  induction h with
  | none s => rfl
  | @read wait outcome s s₁ s' first later ih =>
      refine ih.trans ?_
      cases hreads : s.reads with
      | nil =>
          have hsame : settled (.ok none) s = settled outcome s₁ :=
            (read_nil hreads wait).symm.trans first
          rw [← (settled_inj.1 hsame).2]
      | cons arrival rest =>
          have hsame := (read_cons hreads wait).symm.trans first
          rw [← (settled_inj.1 hsame).2]
          rfl

end Playback

end TokenAgent
