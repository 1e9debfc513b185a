import TokenAgent.Proofs.Frame.RoundTrip
import TokenAgent.Transport.Simulator

/-!
# What a simulated token does with reports

A report either leaves the token waiting for the rest of a command, or completes one.  The
lemmas here say what becomes of the token then, and what it has ready to be read after a command.
-/

namespace TokenAgent

namespace Simulator

open TokenAgent.Frame Running

variable {s : Simulator} {p : Packet} {m : Bytes}

/-! ## Reports -/

/-- A report of the right size with the right report id. -/
structure IsReport (report : Bytes) : Prop where
  size : report.length = reportSize
  id : report.head? = some reportId

theorem isReport_toReport (hroom : p.body.length ≤ laterRoom) : IsReport p.toReport where
  size := by
    rw [Packet.toReport, List.length_cons, Packet.length_toBytes hroom, reportSize]
  id := rfl

theorem IsReport.not_malformed {report : Bytes} (h : IsReport report) :
    ¬ (report.length ≠ reportSize ∨ report.head? ≠ some reportId) := by
  rintro (hsize | hid)
  · exact hsize h.size
  · exact hid h.id

/-- A working token takes in what stands behind the report id. -/
theorem write_of_good {report : Bytes} (hworks : s.failWrites = false)
    (hgood : ¬ (report.length ≠ reportSize ∨ report.head? ≠ some reportId)) :
    write report s =
      match s.incoming.push report.tail with
      | (.error e, buffer) => .error (.corrupt e) { s with incoming := buffer }
      | (.ok .incomplete, buffer) => .ok report.length { s with incoming := buffer }
      | (.ok (.complete command), buffer) =>
          .ok report.length ({ s with incoming := buffer }.receive command) := by
  have hplugged : ¬ s.failWrites = true := by
    simp [hworks]
  exact (if_neg hplugged).trans (if_neg hgood)

/-- A working token takes in the packet of every report that carries one. -/
theorem write_toReport (hworks : s.failWrites = false) (hroom : p.body.length ≤ laterRoom) :
    write p.toReport s =
      match s.incoming.push p.toBytes with
      | (.error e, buffer) => .error (.corrupt e) { s with incoming := buffer }
      | (.ok .incomplete, buffer) => .ok p.toReport.length { s with incoming := buffer }
      | (.ok (.complete command), buffer) =>
          .ok p.toReport.length ({ s with incoming := buffer }.receive command) :=
  write_of_good hworks (isReport_toReport hroom).not_malformed

theorem write_of_incomplete (hworks : s.failWrites = false) (hroom : p.body.length ≤ laterRoom)
    (h : assemble (s.incoming.bytes ++ p.toBytes) = .ok .incomplete) :
    write p.toReport s
      = .ok p.toReport.length { s with incoming := ⟨s.incoming.bytes ++ p.toBytes⟩ } := by
  rw [write_toReport hworks hroom, Buffer.push, h]

theorem write_of_complete (hworks : s.failWrites = false) (hroom : p.body.length ≤ laterRoom)
    (h : assemble (s.incoming.bytes ++ p.toBytes) = .ok (.complete m)) :
    write p.toReport s = .ok p.toReport.length (s.receive m) := by
  rw [write_toReport hworks hroom, Buffer.push, h]
  rfl

/-- What a report comes to, and the state that it leaves.  An unplugged token and one that is
offered no report at all stay as they are; any other takes the packet in, and what its buffer
assembles to then tells how it goes on. -/
inductive Written (s : Simulator) (report : Bytes) :
    Except TransportFault Nat → Simulator → Prop where
  | unplugged (hfails : s.failWrites = true) : Written s report (.error .unplugged) s
  | malformed (hworks : s.failWrites = false)
      (hbad : report.length ≠ reportSize ∨ report.head? ≠ some reportId) :
      Written s report (.error (.malformedReport report.length)) s
  | corrupt {e : FramingError} (hworks : s.failWrites = false)
      (hsize : report.length = reportSize)
      (hassemble : assemble (s.incoming.bytes ++ report.tail) = .error e) :
      Written s report (.error (.corrupt e))
        { s with incoming := ⟨s.incoming.bytes ++ report.tail⟩ }
  | waiting (hworks : s.failWrites = false) (hsize : report.length = reportSize)
      (hassemble : assemble (s.incoming.bytes ++ report.tail) = .ok .incomplete) :
      Written s report (.ok reportSize)
        { s with incoming := ⟨s.incoming.bytes ++ report.tail⟩ }
  | command {m : Bytes} (hworks : s.failWrites = false) (hsize : report.length = reportSize)
      (hassemble : assemble (s.incoming.bytes ++ report.tail) = .ok (.complete m)) :
      Written s report (.ok reportSize) (s.receive m)

theorem written_write (report : Bytes) (s : Simulator) :
    ∃ outcome s', write report s = settled outcome s' ∧ Written s report outcome s' := by
  cases hfails : s.failWrites with
  | true =>
      refine ⟨_, _, ?_, .unplugged hfails⟩
      rw [write, if_pos hfails]
      rfl
  | false =>
      by_cases hbad : report.length ≠ reportSize ∨ report.head? ≠ some reportId
      · refine ⟨_, _, ?_, .malformed hfails hbad⟩
        rw [write, hfails, if_neg Bool.false_ne_true, if_pos hbad]
        rfl
      · have hsize : report.length = reportSize := by
          by_contra hne
          exact hbad (Or.inl hne)
        have hwrite := write_of_good hfails hbad
        cases hassemble : assemble (s.incoming.bytes ++ report.tail) with
        | error e =>
            refine ⟨_, _, ?_, .corrupt hfails hsize hassemble⟩
            simp only [hwrite, Buffer.push, hassemble, settled]
        | ok assembly =>
            cases assembly with
            | incomplete =>
                refine ⟨_, _, ?_, .waiting hfails hsize hassemble⟩
                simp only [hwrite, Buffer.push, hassemble, hsize, settled]
            | complete m =>
                refine ⟨_, _, ?_, .command hfails hsize hassemble⟩
                simp only [hwrite, Buffer.push, hassemble, hsize, settled]
                rfl

theorem written_of_write {report : Bytes} {outcome : Except TransportFault Nat} {s' : Simulator}
    (h : write report s = settled outcome s') : Written s report outcome s' := by
  rcases written_write report s with ⟨outcome', s'', hwrite, hwritten⟩
  rcases settled_inj.1 (hwrite.symm.trans h) with ⟨rfl, rfl⟩
  exact hwritten

/-- Whatever state a token is in, a report changes its buffer alone, or completes a command. -/
theorem write_cases (report : Bytes) (s : Simulator) :
    (∃ outcome buffer, write report s = settled outcome { s with incoming := buffer }) ∨
      ∃ outcome command, write report s = settled outcome (s.receive command) := by
  rcases written_write report s with ⟨outcome, s', hwrite, hwritten⟩
  cases hwritten with
  | unplugged _ => exact Or.inl ⟨_, s.incoming, hwrite⟩
  | malformed _ _ => exact Or.inl ⟨_, s.incoming, hwrite⟩
  | corrupt _ _ _ => exact Or.inl ⟨_, _, hwrite⟩
  | waiting _ _ _ => exact Or.inl ⟨_, _, hwrite⟩
  | command _ _ _ => exact Or.inr ⟨_, _, hwrite⟩

/-- Only the first packet of a command can be the first that a token takes in. -/
theorem write_later (hidle : s.incoming = .empty) (hlater : p.sequence ≠ 0) :
    ∃ fault buffer, write p.toReport s = .error fault { s with incoming := buffer } := by
  rcases assemble_later hlater with ⟨e, hassemble⟩
  by_cases hfails : s.failWrites = true
  · refine ⟨.unplugged, s.incoming, ?_⟩
    rw [write, if_pos hfails]
  · by_cases hbad : p.toReport.length ≠ reportSize ∨ p.toReport.head? ≠ some reportId
    · refine ⟨.malformedReport p.toReport.length, s.incoming, ?_⟩
      rw [write, if_neg hfails, if_pos hbad]
    · refine ⟨.corrupt e, ⟨p.toBytes⟩, ?_⟩
      have hpush : s.incoming.push p.toReport.tail = (.error e, ⟨p.toBytes⟩) := by
        rw [hidle, Buffer.push, ← hassemble]
        rfl
      rw [write, if_neg hfails, if_neg hbad, hpush]

/-! ## Commands -/

/-- What is there to be read after a command that was answered with an entry of the script. -/
def handedOut : Option Reply → Bytes
  | some (.raw bytes) => bytes
  | some .silence => []
  | none => []

/-- A command takes one entry of the script, if there is one, and leaves its answer in full,
with nothing of the answers before it. -/
theorem receive_eq (s : Simulator) (command : Bytes) :
    s.receive command = { s with
      script := s.script.tail
      incoming := .empty
      pending := Bytes.chunks s.chunkSize (handedOut s.script.head?)
      commands := s.commands ++ [command] } := by
  cases hscript : s.script with
  | nil => simp [receive, answer, hscript, handedOut, Buffer.clear]
  | cons reply rest =>
      cases reply with
      | raw bytes => simp [receive, answer, hscript, handedOut, Buffer.clear]
      | silence => simp [receive, answer, hscript, handedOut, Buffer.clear]

end Simulator

end TokenAgent
