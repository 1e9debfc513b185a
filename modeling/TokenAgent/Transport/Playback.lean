import TokenAgent.Transport.Basic

/-!
# A transport that follows lists

Every write and every read has the outcome that is next on its list.  Past the end of the lists
writes are taken whole and nothing arrives.  What was offered and how long reads were willing to
wait is recorded.
-/

namespace TokenAgent

structure Playback where
  /-- Outcomes of the writes to come. -/
  writes : List (Except TransportFault Nat)
  /-- Outcomes of the reads to come. -/
  reads : List (Except TransportFault (Option Bytes))
  /-- The reports offered, in order. -/
  offered : List Bytes
  /-- The waits of the reads that took an outcome, in order. -/
  waits : List Duration

namespace Playback

def ofOutcomes (writes : List (Except TransportFault Nat))
    (reads : List (Except TransportFault (Option Bytes))) : Playback :=
  ⟨writes, reads, [], []⟩

def write (report : Bytes) : EStateM TransportFault Playback Nat := fun s =>
  let s := { s with offered := s.offered ++ [report] }
  match s.writes with
  | [] => .ok report.length s
  | .ok accepted :: rest => .ok accepted { s with writes := rest }
  | .error fault :: rest => .error fault { s with writes := rest }

def read (wait : Duration) : EStateM TransportFault Playback (Option Bytes) := fun s =>
  match s.reads with
  | [] => .ok none s
  | .ok arrival :: rest => .ok arrival { s with reads := rest, waits := s.waits ++ [wait] }
  | .error fault :: rest => .error fault { s with reads := rest, waits := s.waits ++ [wait] }

instance : Transport Playback where
  write := write
  read := read
  backlog s := s.reads.length

end Playback

end TokenAgent
