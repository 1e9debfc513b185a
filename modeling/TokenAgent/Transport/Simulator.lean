import TokenAgent.Frame.Assembly
import TokenAgent.Frame.Packet
import TokenAgent.Status
import TokenAgent.Transport.Basic

/-!
# A simulated token

The simulator puts together the reports it is sent, records every complete command, and answers
each with the next reply of its script.

* `Simulator.queue`, `Simulator.queueMessage`, `Simulator.queueResponse` — extend the script;
* `Simulator.write`, `Simulator.read` — one report in, one chunk out;
* `Simulator.deliver`, `Simulator.drain` — several at once.
-/

namespace TokenAgent

namespace Simulator

/-- What one command is answered with. -/
inductive Reply where
  /-- Bytes, handed out by the reads that follow. -/
  | raw (bytes : Bytes)
  /-- Nothing, as when nobody confirms. -/
  | silence
  deriving DecidableEq, Repr

end Simulator

/-- The state of a simulated token. -/
structure Simulator where
  /-- Replies to the commands to come. -/
  script : List Simulator.Reply
  /-- Packets of the command that is arriving. -/
  incoming : Frame.Buffer
  /-- Chunks that wait to be read. -/
  pending : List Bytes
  /-- The commands received, in order. -/
  commands : List Bytes
  /-- Bytes handed out by one read; zero counts as one. -/
  chunkSize : Nat
  /-- Every write fails. -/
  failWrites : Bool
  deriving DecidableEq, Repr

namespace Simulator

/-- A token that has received nothing and hands out one packet at a time. -/
def fresh : Simulator :=
  ⟨[], Frame.Buffer.empty, [], [], Frame.packetSize, false⟩

/-! ## The script -/

/-- Add a reply to the end of the script. -/
def queue (s : Simulator) (r : Reply) : Simulator :=
  { s with script := s.script ++ [r] }

/-- Add a message to the end of the script, as the packets that carry it. -/
def queueMessage (s : Simulator) (message : Bytes) : Except FramingError Simulator := do
  return s.queue (.raw (← Frame.packBytes message))

/-- Add a response to the end of the script; one that is too long is left out. -/
def queueResponse (s : Simulator) (payload : Bytes) (status : Status) : Simulator :=
  match s.queueMessage (payload ++ Bytes.bigEndian 2 status.code.toNat) with
  | .ok longer => longer
  | .error _ => s

/-! ## Reports in, chunks out -/

/-- Take the next reply from the script and make it ready to be read. -/
def answer (s : Simulator) : Simulator :=
  match s.script with
  | [] => s
  | .raw bytes :: rest =>
      { s with script := rest, pending := s.pending ++ Bytes.chunks s.chunkSize bytes }
  | .silence :: rest => { s with script := rest }

/-- Record a complete command.  Output of earlier commands that nobody read is dropped. -/
def receive (s : Simulator) (command : Bytes) : Simulator :=
  answer { s with
    incoming := s.incoming.clear
    pending := []
    commands := s.commands ++ [command] }

/-- Take in one report. -/
def write (report : Bytes) : EStateM TransportFault Simulator Nat := fun s =>
  if s.failWrites then .error .unplugged s
  else if report.length ≠ Frame.reportSize ∨ report.head? ≠ some Frame.reportId then
    .error (.malformedReport report.length) s
  else
    match s.incoming.push report.tail with
    | (.error e, buffer) => .error (.corrupt e) { s with incoming := buffer }
    | (.ok .incomplete, buffer) => .ok report.length { s with incoming := buffer }
    | (.ok (.complete command), buffer) =>
        .ok report.length ({ s with incoming := buffer }.receive command)

/-- Hand out the next chunk, if there is one. -/
def read : EStateM TransportFault Simulator (Option Bytes) := fun s =>
  match s.pending with
  | [] => .ok none s
  | chunk :: rest => .ok (some chunk) { s with pending := rest }

instance : Transport Simulator where
  write := write
  read _ := read
  backlog s := s.pending.length

/-- Write the packets of a message, up to the first that is refused. -/
def deliver (packets : List Frame.Packet) : EStateM TransportFault Simulator Unit :=
  packets.forM fun p => do
    let _ ← write p.toReport

/-- Read until nothing is left. -/
def drain (s : Simulator) : List Bytes × Simulator :=
  (s.pending, { s with pending := [] })

end Simulator

end TokenAgent
