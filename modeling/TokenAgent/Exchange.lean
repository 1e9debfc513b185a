import TokenAgent.Command
import TokenAgent.Config.Basic
import TokenAgent.Error
import TokenAgent.Frame.Assembly
import TokenAgent.Frame.Packet

/-!
# Exchanges

One exchange sends a command to the token and waits for its response.

* `Exchange.send` — the command as reports, each of which has to be taken whole;
* `Exchange.receive` — reads until a response is assembled, fails, or the deadline is reached;
* `Exchange.run` — both, and the response split into payload and status.

The first read waits as long as the deadline, later ones not at all.  The deadline counts as
reached when nothing more will come; a deadline of zero is reached after the first read.
-/

namespace TokenAgent

/-- A response: its payload and the status word behind it. -/
structure Response where
  payload : Bytes
  status : Status
  deriving DecidableEq, Repr

/-- Split a message of the token. -/
def Response.ofMessage (message : Bytes) : Except FramingError Response :=
  if message.length < 2 then .error (.missingStatus message.length)
  else
    let split := message.length - 2
    .ok ⟨message.take split, ⟨UInt16.ofNat (Bytes.ofBigEndian (message.drop split))⟩⟩

namespace Exchange

variable {σ : Type} [Transport σ]

/-- Write one packet, which has to be taken whole. -/
def offer (p : Frame.Packet) : EStateM Error σ Unit := do
  let report := p.toReport
  let accepted ← (Transport.write report).adaptExcept fun fault => .transport (.writeFailed fault)
  if accepted = report.length then return ()
  else throw (.transport (.writeFailed (.shortWrite accepted report.length)))

/-- Write a command. -/
def send (command : Command) : EStateM Error σ Unit := do
  let packets ← Error.attempt .framing (Frame.pack command.toBytes)
  packets.forM offer

/-- Read at most `reads` times, the next time waiting for `wait`, and assemble what arrives. -/
def receiveWithin (deadline : Duration) :
    (reads : Nat) → (wait : Duration) → Frame.Buffer → EStateM Error σ Bytes
  | 0, _, _ => throw (.transport (.timeout deadline))
  | reads + 1, wait, buffer => do
      let arrival ← (Transport.read wait).adaptExcept fun fault => .transport (.readFailed fault)
      match arrival with
      | none | some [] => receiveWithin deadline reads .zero buffer
      | some chunk =>
          match buffer.push chunk with
          | (.ok (.complete message), _) => return message
          | (.ok .incomplete, buffer) => receiveWithin deadline reads .zero buffer
          | (.error e, _) => throw (.framing e)

/-- The reads that fit before the deadline. -/
def readsWithin (deadline : Duration) (backlog : Nat) : Nat :=
  if deadline = .zero then 1 else backlog + 1

/-- Wait for a message of the token. -/
def receive (deadline : Duration) : EStateM Error σ Bytes := do
  receiveWithin deadline (readsWithin deadline (Transport.backlog (← get))) deadline .empty

/-- Send a command and wait for its response, whatever its status. -/
def run (timing : Timing) (command : Command) : EStateM Error σ Response := do
  send command
  Error.attempt .framing (Response.ofMessage (← receive timing.readTimeout))

end Exchange

end TokenAgent
