import TokenAgent.Proofs.Agent.Handler
import TokenAgent.Proofs.Connection.Inbound

/-!
# Serving a stream

What a connection comes to is told by the messages of its stream (`Connection.serve_split`): each
is handed to the agent once, in the order of the stream and on the state that the one before it
left, and what goes out is one reply for each.  What is left of the stream decides how the
connection ends, and nothing is replied to it (`Connection.Ending.ofRest`).  The client can cut
the output into the replies again, and what has gone out is never taken back.
-/

namespace TokenAgent

namespace Agent

open Running

variable {σ : Type} [Transport σ]

/-- What a message is answered with, and the agent behind it. -/
def call (a : Agent σ) (message : Bytes) : Except Error Bytes × Agent σ :=
  match handle message a with
  | .ok bytes a => (.ok bytes, a)
  | .error e a => (.error e, a)

/-- Messages one after the other, whatever becomes of them. -/
def calls : Agent σ → List Bytes → List (Except Error Bytes × Agent σ)
  | _, [] => []
  | a, message :: rest => a.call message :: calls (a.call message).2 rest

/-- The agent that messages leave. -/
def afterCalls (a : Agent σ) (messages : List Bytes) : Agent σ :=
  messages.foldl (fun a message => (a.call message).2) a

/-- What goes out for a message: the answer of the agent, or that there is none. -/
def outgoing : Except Error Bytes → Bytes
  | .ok bytes => bytes
  | .error _ => [0x00, 0x00, 0x00, 0x01, 0x05]

/-- The replies to messages. -/
def replies (a : Agent σ) (messages : List Bytes) : List Bytes :=
  (a.calls messages).map fun c => outgoing c.1

variable {a : Agent σ} {message : Bytes} {messages : List Bytes}

theorem reply_eq : a.reply message = (outgoing (a.call message).1, (a.call message).2) := by
  rw [reply, call]
  cases handle message a with
  | ok bytes a' => rfl
  | error e a' => rfl

theorem replies_cons :
    a.replies (message :: messages)
      = outgoing (a.call message).1 :: (a.call message).2.replies messages := rfl

theorem afterCalls_cons :
    a.afterCalls (message :: messages) = (a.call message).2.afterCalls messages := rfl

theorem length_replies : (a.replies messages).length = messages.length := by
  induction messages generalizing a with
  | nil => rfl
  | cons message rest ih => rw [replies_cons, List.length_cons, ih, List.length_cons]

theorem exists_envelope {reply : Bytes} (h : reply ∈ a.replies messages) :
    ∃ body, reply = Wire.envelope body := by
  induction messages generalizing a with
  | nil => cases h
  | cons message rest ih =>
      rw [replies_cons] at h
      rcases List.mem_cons.1 h with rfl | hlater
      · rw [call]
        cases hhandle : handle message a with
        | ok bytes a' => exact envelope_of_handle hhandle
        | error e a' => exact ⟨[Opcode.failure], rfl⟩
      · exact ih hlater

theorem delimited_reply {reply : Bytes} (h : reply ∈ a.replies messages)
    (hsize : reply.length < 2 ^ 32) : Wire.Delimited reply := by
  rcases exists_envelope h with ⟨body, rfl⟩
  have hlength : (Wire.envelope body).length = 4 + body.length := Wire.length_field body
  refine Wire.delimited_envelope ?_
  omega

theorem split_replies (hsizes : ∀ reply ∈ a.replies messages, reply.length < 2 ^ 32) :
    Wire.Split Wire.Delimited (a.replies messages).flatten (a.replies messages) [] where
  whole := (List.append_nil _).symm
  each := by
    intro reply hmem
    exact delimited_reply hmem (hsizes reply hmem)
  ended := by
    intro block hblock hprefix
    -- A block has at least its length, so it is not at the front of nothing.
    have hlength := hblock.1
    rw [List.prefix_nil.1 hprefix] at hlength
    exact absurd hlength (by decide)

end Agent

namespace Connection

open Inbound

/-- How a connection ends, told by what is left of the stream when no message is. -/
def Ending.ofRest (rest : Bytes) : Ending :=
  if rest.length < 4 then .closed
  else
    let length := Bytes.ofBigEndian (rest.take 4)
    if maxMessageSize - 4 < length then .failed (.decode (.tooLarge length))
    else .failed (.stream .earlyEnd)

theorem Ending.ofRest_of_length {length : Nat} (hsize : length < 2 ^ 32) (behind : Bytes) :
    Ending.ofRest (Bytes.bigEndian 4 length ++ behind) =
      if maxMessageSize - 4 < length then .failed (.decode (.tooLarge length))
      else .failed (.stream .earlyEnd) := by
  have hfront : (Bytes.bigEndian 4 length ++ behind).take 4 = Bytes.bigEndian 4 length :=
    List.take_left' (Bytes.length_bigEndian 4 _)
  have hlong : ¬ (Bytes.bigEndian 4 length ++ behind).length < 4 := by
    simp
  rw [Ending.ofRest, if_neg hlong, hfront, Bytes.ofBigEndian_bigEndian hsize]

variable {σ : Type} [Transport σ] {a : Agent σ} {stream rest : Bytes} {messages : List Bytes}

/-! ## One message at a time -/

theorem serve_message {m : Bytes} (hm : IsMessage m) (rest : Bytes) :
    serve a (m ++ rest) =
      let served := serve (a.reply m).2 rest
      { served with output := (a.reply m).1 ++ served.output } := by
  have hfront := ofStream_message hm rest
  rw [serve]
  split
  · rename_i h; rw [hfront] at h; cases h
  · rename_i h; rw [hfront] at h; cases h
  · rename_i h; rw [hfront] at h; cases h
  · rename_i m' rest' h
    rw [hfront] at h
    injection h with hm' hrest'
    subst hm' hrest'
    rfl

theorem serve_over (hover : Over stream) : serve a stream = ⟨[], Ending.ofRest stream, a⟩ := by
  have hfront := front_ofStream stream
  rw [serve]
  split
  · rename_i h
    rw [h] at hfront
    cases hfront with
    | closed hshort => rw [Ending.ofRest, if_pos hshort]
  · rename_i length h
    rw [h] at hfront
    cases hfront with
    | oversize hsize hlarge behind => rw [Ending.ofRest_of_length hsize, if_pos hlarge]
  · rename_i h
    rw [h] at hfront
    cases hfront with
    | cut haccepted hshort =>
        rw [Ending.ofRest_of_length (lt_of_accepted haccepted), if_neg (Nat.not_lt.2 haccepted)]
  · rename_i m rest h
    exact absurd h (over_iff.1 hover m rest)

/-! ## The whole stream -/

theorem serve_split (h : Wire.Split IsMessage stream messages rest) :
    serve a stream = ⟨(a.replies messages).flatten, Ending.ofRest rest, a.afterCalls messages⟩ := by
  rcases h with ⟨rfl, heach, hover⟩
  -- One message is served at a time, and the agent behind it serves the others.
  induction messages generalizing a with
  | nil => exact serve_over hover
  | cons m messages ih =>
      have hm : IsMessage m := heach m List.mem_cons_self
      have hlater : ∀ message ∈ messages, IsMessage message := by
        intro message hmem
        exact heach message (List.mem_cons_of_mem m hmem)
      rw [List.flatten_cons, List.append_assoc, serve_message hm, ih hlater, Agent.reply_eq,
        Agent.replies_cons, Agent.afterCalls_cons]
      rfl

/-- More of the stream only adds to the output. -/
theorem output_prefix (a : Agent σ) {front stream : Bytes} (h : front <+: stream) :
    (serve a front).output <+: (serve a stream).output := by
  rcases h with ⟨tail, rfl⟩
  induction front using stream_induction generalizing a with
  | ended front hover =>
      -- The beginning ends inside a message, for which nothing has gone out yet.
      rw [serve_over hover]
      exact List.nil_prefix
  | message m rest hm ih =>
      rw [List.append_assoc, serve_message hm, serve_message hm]
      exact (List.prefix_append_right_inj _).2 (ih (a.reply m).2)

/-- A stream is a sequence of messages and a rest in exactly one way.  The agent is called once
for each message, in order, each time as the call before left it; the output is one reply for
each, and the rest has no part in it, but for the way in which the connection ends.  Replies of
less than `2 ^ 32` bytes are what the output is cut into again, and in no other way.  The output
for a beginning of the stream is a beginning of the output. -/
theorem serve_stream (a : Agent σ) (stream : Bytes) :
    ∃ (messages : List Bytes) (rest : Bytes),
      Wire.Split IsMessage stream messages rest ∧
      (∀ messages' rest', Wire.Split IsMessage stream messages' rest' →
        messages' = messages ∧ rest' = rest) ∧
      serve a stream
        = ⟨(a.replies messages).flatten, Ending.ofRest rest, a.afterCalls messages⟩ ∧
      (a.replies messages).length = messages.length ∧
      (∀ reply ∈ a.replies messages, reply.length < 2 ^ 32 → Wire.Delimited reply) ∧
      ((∀ reply ∈ a.replies messages, reply.length < 2 ^ 32) →
        Wire.Split Wire.Delimited (serve a stream).output (a.replies messages) [] ∧
        ∀ blocks rest', Wire.Split Wire.Delimited (serve a stream).output blocks rest' →
          blocks = a.replies messages ∧ rest' = []) ∧
      ∀ front, front <+: stream → (serve a front).output <+: (serve a stream).output := by
  rcases exists_split stream with ⟨messages, rest, hsplit⟩
  refine ⟨messages, rest, hsplit, ?_, serve_split hsplit, Agent.length_replies, ?_, ?_, ?_⟩
  · intro messages' rest' hsplit'
    exact hsplit'.unique (fun _ hm => hm.delimited) hsplit
  · intro reply hmem hsize
    exact Agent.delimited_reply hmem hsize
  · intro hsizes
    -- The output is cut in one way only, and the replies are one.
    have houtput : (serve a stream).output = (a.replies messages).flatten := by
      rw [serve_split hsplit]
    have hreplies := Agent.split_replies hsizes
    rw [← houtput] at hreplies
    refine ⟨hreplies, ?_⟩
    intro blocks rest' hblocks
    exact hblocks.unique (fun _ hblock => hblock) hreplies
  · intro front hfront
    exact output_prefix a hfront

end Connection

end TokenAgent
