import TokenAgent.Agent.Handler

/-!
# Connections

A client sends messages on a stream, each under its length, and reads one answer for each.

* `Inbound.ofStream` — what stands at the front of a stream;
* `Agent.reply` — the answer to one message.  Where the agent has none, the client is told of
  the failure and the stream goes on;
* `Connection.serve` — all answers to a stream, and how it ends.
-/

namespace TokenAgent

/-! ## Streams -/

/-- What stands at the front of the rest of a stream. -/
inductive Inbound where
  /-- A whole message, its length included, and what follows it. -/
  | message (bytes rest : Bytes)
  /-- No further message.  A cut length counts as none. -/
  | closed
  /-- A message of `length` bytes, which is more than the agent accepts. -/
  | oversize (length : Nat)
  /-- A message that is cut short. -/
  | cut
  deriving DecidableEq, Repr

namespace Inbound

/-- Look at the front of a stream. -/
def ofStream (stream : Bytes) : Inbound :=
  match Reader.uint32 stream with
  | .error _ _ => .closed
  | .ok length body =>
      if maxMessageSize - 4 < length.toNat then .oversize length.toNat
      else
        match Reader.take length.toNat body with
        | .error _ _ => .cut
        | .ok content rest => .message (stream.take 4 ++ content) rest

/-- Taking a message off a stream leaves less. -/
theorem rest_shorter {stream bytes rest : Bytes} (h : ofStream stream = .message bytes rest) :
    rest.length < stream.length := by
  unfold ofStream at h
  cases hw : Reader.uint32 stream with
  | error e s => simp [hw] at h
  | ok length body =>
      have hbody : body.length + 4 = stream.length := by
        unfold Reader.uint32 at hw
        cases ht : Reader.take 4 stream with
        | error e s => simp [ht, bind, EStateM.bind] at hw
        | ok front body' =>
            simp [ht, bind, EStateM.bind, pure, EStateM.pure] at hw
            have := Reader.length_of_take ht
            rw [← hw.2]
            exact this
      simp only [hw] at h
      split at h
      · cases h
      · cases hb : Reader.take length.toNat body with
        | error e s => simp [hb] at h
        | ok content last =>
            simp only [hb] at h
            injection h with _ h
            subst h
            have := Reader.length_of_take hb
            omega

end Inbound

/-! ## Answers -/

/-- The answer to one message, and the state that it leaves. -/
def Agent.reply {σ : Type} [Transport σ] (a : Agent σ) (message : Bytes) : Bytes × Agent σ :=
  match Agent.handle message a with
  | .ok bytes a => (bytes, a)
  | .error _ a => (Answer.failure, a)

namespace Connection

/-- How a connection ends. -/
inductive Ending where
  /-- The client has hung up between messages. -/
  | closed
  | failed (e : Error)
  deriving DecidableEq

/-- What a connection comes to. -/
structure Served (σ : Type) where
  /-- All answers, one after the other. -/
  output : Bytes
  ending : Ending
  agent : Agent σ

variable {σ : Type} [Transport σ]

/-- Answer the messages of a stream in their order. -/
def serve (a : Agent σ) (stream : Bytes) : Served σ :=
  match _h : Inbound.ofStream stream with
  | .closed => ⟨[], .closed, a⟩
  | .oversize length => ⟨[], .failed (.decode (.tooLarge length)), a⟩
  | .cut => ⟨[], .failed (.stream .earlyEnd), a⟩
  | .message message rest =>
      let (answer, a) := a.reply message
      let served := serve a rest
      { served with output := answer ++ served.output }
termination_by stream.length
decreasing_by exact Inbound.rest_shorter _h

/-- Serve streams one after the other. -/
def serveAll (a : Agent σ) : List Bytes → List (Bytes × Ending) × Agent σ
  | [] => ([], a)
  | stream :: rest =>
      let served := serve a stream
      let (results, a) := serveAll served.agent rest
      ((served.output, served.ending) :: results, a)

end Connection

end TokenAgent
