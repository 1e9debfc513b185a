import TokenAgent.Proofs.Frame.Arrival
import TokenAgent.Proofs.Transport.Simulator

/-!
# Simulated tokens over time

A simulated token is told replies, is offered reports of any kind and is read from, in any order.
Nothing in its state says which reply belongs to which command.  It follows from how it came to
be in that state:

* `Simulator.stepped_next` — the five things that a step can do;
* `Simulator.chunksRead_append_pending` — between two commands reads hand out what was there to
  be read, from the front;
* `Simulator.run_serves_script` — what is read after a command and before the next is the reply
  that the command took from the script.
-/

namespace TokenAgent

namespace Simulator

open TokenAgent.Frame Running

/-! ## Steps -/

/-- Something to do with a simulated token. -/
inductive Step where
  | queue (reply : Reply)
  | queueResponse (payload : Bytes) (status : Status)
  | write (report : Bytes)
  | read
  deriving DecidableEq, Repr

/-- The state that a step leaves, whether it fails or not. -/
def next (s : Simulator) : Step → Simulator
  | .queue reply => s.queue reply
  | .queueResponse payload status => s.queueResponse payload status
  | .write report =>
      match write report s with
      | .ok _ s => s
      | .error _ s => s
  | .read =>
      match read s with
      | .ok _ s => s
      | .error _ s => s

/-- The chunk that a step hands out. -/
def handed (s : Simulator) : Step → Option Bytes
  | .read =>
      match read s with
      | .ok chunk _ => chunk
      | .error _ _ => none
  | _ => none

/-- The state after some steps. -/
def run (s : Simulator) (steps : List Step) : Simulator :=
  steps.foldl next s

/-- All chunks that some steps hand out, in order. -/
def chunksRead (s : Simulator) : List Step → List Bytes
  | [] => []
  | step :: rest => (s.handed step).toList ++ chunksRead (s.next step) rest

theorem run_cons (s : Simulator) (step : Step) (rest : List Step) :
    s.run (step :: rest) = (s.next step).run rest := rfl

theorem run_append (s : Simulator) (earlier later : List Step) :
    s.run (earlier ++ later) = (s.run earlier).run later :=
  List.foldl_append

theorem run_concat (s : Simulator) (steps : List Step) (step : Step) :
    s.run (steps ++ [step]) = (s.run steps).next step := by
  rw [run_append, run_cons]
  rfl

theorem run_induction {motive : Simulator → Prop} {s : Simulator} (start : motive s)
    (step : ∀ s step, motive s → motive (s.next step)) (steps : List Step) :
    motive (s.run steps) := by
  induction steps generalizing s with
  | nil => exact start
  | cons first rest ih => exact ih (step s first start)

theorem next_write {s s' : Simulator} {report : Bytes} {outcome : Except TransportFault Nat}
    (h : Simulator.write report s = settled outcome s') : s.next (.write report) = s' := by
  rw [next, h]
  cases outcome with
  | ok accepted => rfl
  | error fault => rfl

/-- What a step does: the script grows, the buffer changes, a command is complete, there is
nothing to be read, or the next chunk is handed out. -/
inductive Stepped (s : Simulator) : Option Bytes → Simulator → Prop where
  | queued (more : List Reply) : Stepped s none { s with script := s.script ++ more }
  | buffered (buffer : Buffer) : Stepped s none { s with incoming := buffer }
  | received (command : Bytes) : Stepped s none (s.receive command)
  | dry (hdry : s.pending = []) : Stepped s none s
  | read {chunk : Bytes} {rest : List Bytes} (hnext : s.pending = chunk :: rest) :
      Stepped s (some chunk) { s with pending := rest }

theorem queueResponse_eq (s : Simulator) (payload : Bytes) (status : Status) :
    ∃ more, s.queueResponse payload status = { s with script := s.script ++ more } := by
  rw [queueResponse, queueMessage]
  cases packBytes (payload ++ Bytes.bigEndian 2 status.code.toNat) with
  | ok raw => exact ⟨[.raw raw], rfl⟩
  | error e =>
      refine ⟨[], ?_⟩
      simp [bind, Except.bind]

theorem stepped_next (s : Simulator) (step : Step) :
    ∃ chunk s', s.handed step = chunk ∧ s.next step = s' ∧ Stepped s chunk s' := by
  cases step with
  | queue reply => exact ⟨_, _, rfl, rfl, .queued [reply]⟩
  | queueResponse payload status =>
      rcases queueResponse_eq s payload status with ⟨more, hqueue⟩
      exact ⟨_, _, rfl, hqueue, .queued more⟩
  | write report =>
      rcases write_cases report s with ⟨outcome, buffer, hwrite⟩ | ⟨outcome, command, hwrite⟩
      · exact ⟨_, _, rfl, next_write hwrite, .buffered buffer⟩
      · exact ⟨_, _, rfl, next_write hwrite, .received command⟩
  | read =>
      cases hpending : s.pending with
      | nil =>
          refine ⟨none, s, ?_, ?_, .dry hpending⟩
          · simp only [handed, Simulator.read, hpending]
          · simp only [next, Simulator.read, hpending]
      | cons chunk rest =>
          refine ⟨some chunk, { s with pending := rest }, ?_, ?_, .read hpending⟩
          · simp only [handed, Simulator.read, hpending]
          · simp only [next, Simulator.read, hpending]

/-! ## Commands and the script -/

section Commands

variable {s : Simulator}

/-- A step adds one command and takes one entry of the script for it, if there is one; or it adds
none and takes none. -/
theorem commands_next (s : Simulator) (step : Step) :
    ((s.next step).commands = s.commands ∧ s.script <+: (s.next step).script) ∨
      ∃ command, (s.next step).commands = s.commands ++ [command] ∧
        (s.next step).script = s.script.tail := by
  rcases stepped_next s step with ⟨chunk, s', _, hnext, hstepped⟩
  rw [hnext]
  cases hstepped with
  | queued more => exact Or.inl ⟨rfl, List.prefix_append s.script more⟩
  | buffered buffer => exact Or.inl ⟨rfl, List.prefix_rfl⟩
  | received command =>
      right
      refine ⟨command, ?_⟩
      simp only [receive_eq, and_self]
  | dry _ => exact Or.inl ⟨rfl, List.prefix_rfl⟩
  | read _ => exact Or.inl ⟨rfl, List.prefix_rfl⟩

theorem commands_prefix (s : Simulator) (steps : List Step) :
    s.commands <+: (s.run steps).commands := by
  induction steps generalizing s with
  | nil => exact List.prefix_rfl
  | cons step rest ih =>
      refine List.IsPrefix.trans ?_ (ih (s.next step))
      rcases commands_next s step with ⟨hsame, _⟩ | ⟨command, hmore, _⟩
      · rw [hsame]
      · rw [hmore]
        exact List.prefix_append s.commands [command]

theorem chunkSize_run (s : Simulator) (steps : List Step) :
    (s.run steps).chunkSize = s.chunkSize := by
  refine run_induction (motive := fun s' => s'.chunkSize = s.chunkSize) rfl ?_ steps
  intro s' step hsame
  rcases stepped_next s' step with ⟨chunk, s'', _, hnext, hstepped⟩
  rw [hnext]
  cases hstepped with
  | received command =>
      rw [receive_eq]
      exact hsame
  | _ => exact hsame

end Commands

/-! ## What arrives and is not a command yet -/

/-- Whole packets, and not enough of them for a command. -/
structure Unfinished (buffer : Buffer) : Prop where
  packets : packetSize ∣ buffer.size
  waits : ∀ m, assemble buffer.bytes ≠ .ok (.complete m)

theorem unfinished_empty : Unfinished .empty where
  packets := Nat.dvd_zero packetSize
  waits := by
    intro m hcomplete
    rw [show Buffer.empty.bytes = [] from rfl, assemble_nil] at hcomplete
    cases hcomplete

/-- A report adds one packet to a buffer. -/
theorem Unfinished.concat {buffer : Buffer} (h : Unfinished buffer) {report : Bytes}
    (hsize : report.length = reportSize)
    (hwaits : ∀ m, assemble (buffer.bytes ++ report.tail) ≠ .ok (.complete m)) :
    Unfinished ⟨buffer.bytes ++ report.tail⟩ where
  packets := by
    have htail : report.tail.length = packetSize := by
      rw [List.length_tail, hsize]
      rfl
    rw [Buffer.size, List.length_append, htail]
    exact Nat.dvd_add h.packets (Nat.dvd_refl packetSize)
  waits := hwaits

theorem unfinished_next {s : Simulator} (h : Unfinished s.incoming) (step : Step) :
    Unfinished (s.next step).incoming := by
  cases step with
  | queue reply => exact h
  | queueResponse payload status =>
      rcases queueResponse_eq s payload status with ⟨more, hqueue⟩
      rw [next, hqueue]
      exact h
  | read =>
      rw [next, Simulator.read]
      cases s.pending with
      | nil => exact h
      | cons chunk rest => exact h
  | write report =>
      rcases written_write report s with ⟨outcome, s', hwrite, hwritten⟩
      rw [next_write hwrite]
      cases hwritten with
      | unplugged _ => exact h
      | malformed _ _ => exact h
      | corrupt _ hsize hassemble =>
          exact h.concat hsize fun m => by simp [hassemble]
      | waiting _ hsize hassemble =>
          exact h.concat hsize fun m => by simp [hassemble]
      | command _ _ _ =>
          -- A complete command leaves nothing behind, whatever followed it in its last packet.
          rw [receive_eq]
          exact unfinished_empty

/-! ## What is read -/

section Reads

variable {s : Simulator}

/-- Until the next command, what a step hands out is taken from the front of what was there. -/
theorem handed_append_pending {step : Step} (hsame : (s.next step).commands = s.commands) :
    (s.handed step).toList ++ (s.next step).pending = s.pending := by
  rcases stepped_next s step with ⟨chunk, s', hhanded, hnext, hstepped⟩
  rw [hnext] at hsame
  rw [hhanded, hnext]
  cases hstepped with
  | queued _ => rfl
  | buffered _ => rfl
  | received command =>
      rw [receive_eq] at hsame
      simp at hsame
  | dry _ => rfl
  | read hpending => exact hpending.symm

theorem chunksRead_append_pending {steps : List Step}
    (hsame : (s.run steps).commands = s.commands) :
    s.chunksRead steps ++ (s.run steps).pending = s.pending := by
  induction steps generalizing s with
  | nil => rfl
  | cons step rest ih =>
      rw [run_cons] at hsame
      -- No command is taken back, so none is complete after the first step either.
      have hfirst : (s.next step).commands = s.commands := by
        rcases commands_next s step with ⟨hnone, _⟩ | ⟨command, hmore, _⟩
        · exact hnone
        · have hprefix := commands_prefix (s.next step) rest
          rw [hsame, hmore] at hprefix
          simpa using hprefix.length_le
      have hrest := ih (hsame.trans hfirst.symm)
      rw [chunksRead, run_cons, List.append_assoc, hrest, handed_append_pending hfirst]

/-- A step that completes a command leaves its reply, and nothing else, to be read. -/
theorem pending_of_command {step : Step} {command : Bytes}
    (hmore : (s.next step).commands = s.commands ++ [command]) :
    (s.next step).pending = Bytes.chunks s.chunkSize (handedOut s.script.head?) := by
  rcases stepped_next s step with ⟨chunk, s', _, hnext, hstepped⟩
  rw [hnext] at hmore ⊢
  cases hstepped with
  | received command' => rw [receive_eq]
  | _ => simp at hmore

end Reads

/-! ## Runs from the beginning -/

/-- A token that nothing was done with. -/
def untouched (chunkSize : Nat) (failWrites : Bool) : Simulator :=
  { fresh with chunkSize := chunkSize, failWrites := failWrites }

/-- A report that is refused leaves the commands, the script and the unread output alone; one
that is turned down as a whole leaves everything alone. -/
theorem write_error {s s' : Simulator} {report : Bytes} {fault : TransportFault}
    (h : write report s = .error fault s') :
    s'.commands = s.commands ∧ s'.script = s.script ∧ s'.pending = s.pending ∧
      (fault = .unplugged ∨ (∃ size, fault = .malformedReport size) → s' = s) := by
  have hsettled : write report s = settled (.error fault) s' := h
  cases written_of_write hsettled with
  | unplugged _ => exact ⟨rfl, rfl, rfl, fun _ => rfl⟩
  | malformed _ _ => exact ⟨rfl, rfl, rfl, fun _ => rfl⟩
  | corrupt _ _ _ => exact ⟨rfl, rfl, rfl, by simp⟩

theorem write_ok {s s' : Simulator} {report : Bytes} {accepted : Nat}
    (h : write report s = .ok accepted s') :
    accepted = report.length ∧
      (s'.commands = s.commands ∨ ∃ command, s'.commands = s.commands ++ [command]) := by
  have hsettled : write report s = settled (.ok accepted) s' := h
  cases written_of_write hsettled with
  | waiting _ hsize _ => exact ⟨hsize.symm, Or.inl rfl⟩
  | @command m _ hsize _ =>
      refine ⟨hsize.symm, Or.inr ⟨m, ?_⟩⟩
      rw [receive_eq]

/-- Whatever is done with a token, what it holds of the next command is whole packets that do not
make up one.  A refused report changes nothing of what was received, of what is still to be
answered, and of what is still to be read.  Every command takes the next reply of the script, if
there is one, and until the next command reads hand out this reply and nothing else: what they
have handed out and what is left make up the whole reply. -/
theorem run_serves_script (chunkSize : Nat) (failWrites : Bool) :
    let token : List Step → Simulator := run (untouched chunkSize failWrites)
    (∀ steps report fault after, write report (token steps) = .error fault after →
      after.commands = (token steps).commands ∧ after.script = (token steps).script ∧
      after.pending = (token steps).pending ∧
      (fault = .unplugged ∨ (∃ size, fault = .malformedReport size) → after = token steps)) ∧
    (∀ steps report accepted after, write report (token steps) = .ok accepted after →
      accepted = report.length ∧ (after.commands = (token steps).commands ∨
        ∃ command, after.commands = (token steps).commands ++ [command])) ∧
    (∀ steps, 64 ∣ (token steps).incoming.size ∧
      ∀ m, assemble (token steps).incoming.bytes ≠ .ok (.complete m)) ∧
    (∀ steps step,
      ((token (steps ++ [step])).commands = (token steps).commands ∧
        (token steps).script <+: (token (steps ++ [step])).script) ∨
      ∃ command, (token (steps ++ [step])).commands = (token steps).commands ++ [command] ∧
        (token (steps ++ [step])).script = (token steps).script.tail) ∧
    (∀ steps, (token steps).commands = [] → chunksRead (token []) steps = []) ∧
    ∀ before step later command,
      (token (before ++ [step])).commands = (token before).commands ++ [command] →
      (token (before ++ step :: later)).commands = (token before).commands ++ [command] →
      let reply := (token before).script.head?
      let chunks := chunksRead (token (before ++ [step])) later
      chunks.flatten ++ (token (before ++ step :: later)).pending.flatten = handedOut reply ∧
      ∀ chunk ∈ chunks, chunk ≠ [] ∧ chunk.length ≤ max chunkSize 1 := by
  intro token
  refine ⟨?_, ?_, ?_, ?_, ?_, ?_⟩
  · intro steps report fault after hwrite
    exact write_error hwrite
  · intro steps report accepted after hwrite
    exact write_ok hwrite
  · intro steps
    have hunfinished : Unfinished (token steps).incoming :=
      run_induction (motive := fun s => Unfinished s.incoming) unfinished_empty
        (fun _ step h => unfinished_next h step) steps
    exact ⟨hunfinished.packets, hunfinished.waits⟩
  · intro steps step
    simp only [token, run_concat]
    exact commands_next _ step
  · intro steps hnone
    -- Nothing was there to be read in the beginning.
    have hread : chunksRead (token []) steps ++ (token steps).pending = [] :=
      chunksRead_append_pending hnone
    exact (List.append_eq_nil_iff.1 hread).1
  · intro before step later command hmore hsame
    -- What there was to be read after the command is the reply, cut into chunks.
    have hnext : token (before ++ [step]) = (token before).next step := run_concat _ before step
    have hlater : token (before ++ step :: later) = (token (before ++ [step])).run later := by
      rw [hnext]
      exact run_append _ before (step :: later)
    have hreply : (token (before ++ [step])).pending
        = Bytes.chunks chunkSize (handedOut (token before).script.head?) := by
      rw [hnext] at hmore ⊢
      rw [pending_of_command hmore, chunkSize_run]
      rfl
    have hsame' : ((token (before ++ [step])).run later).commands
        = (token (before ++ [step])).commands := by
      rw [← hlater, hsame, hmore]
    have hall := chunksRead_append_pending hsame'
    rw [← hlater, hreply] at hall
    refine ⟨?_, ?_⟩
    · rw [← List.flatten_append, hall, Bytes.flatten_chunks]
    · intro chunk hmem
      have hchunk : chunk ∈ Bytes.chunks chunkSize (handedOut (token before).script.head?) := by
        rw [← hall]
        exact List.mem_append_left _ hmem
      exact ⟨Bytes.ne_nil_of_mem_chunks hchunk, Bytes.length_le_max_of_mem_chunks hchunk⟩

/-- Two bytes of the first reply are read and the third is not, so it is never read: the second
command has a reply of its own. -/
example :
    let report (command : Bytes) : Bytes := (packets command).flatMap Packet.toReport
    chunksRead (untouched 2 false) [.queue (.raw [1, 2, 3]), .queue (.raw [4]),
      .write (report [0xA]), .read, .write (report [0xB]), .read, .read] = [[1, 2], [4]] := by
  cbv

end Simulator

end TokenAgent
