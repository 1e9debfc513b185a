import Mathlib.Logic.Function.Basic
import TokenAgent.Proofs.Agent.Quiet

/-!
# Clients that share an agent

Any number of clients are connected to one agent.  Which of them is served next is not decided by
the agent: `Shared.run` follows a schedule, which names the client of each turn.  One turn serves
the next message of its client, and nothing else happens in between; where there is no further
message, the connection ends.

Every run hands the messages of all clients to the agent one after the other, each client's in
the order of its stream, and each reply goes to the client that sent the message
(`Shared.tells_run`).  How a connection ends makes no difference to the others
(`Shared.run_update`), and every run can be continued until all connections have ended
(`Shared.exists_ended`).
-/

namespace TokenAgent

namespace Connection

open Inbound (IsMessage Over)

/-! ## One client -/

/-- A connection in the middle of its stream. -/
structure Session where
  unread : Bytes
  /-- What has gone out. -/
  replies : List Bytes
  ending : Option Ending

namespace Session

def ofStream (stream : Bytes) : Session :=
  ⟨stream, [], none⟩

/-- The message to be served next, and what follows it. -/
def next? (s : Session) : Option (Bytes × Bytes) :=
  match s.ending, Inbound.ofStream s.unread with
  | none, .message m rest => some (m, rest)
  | _, _ => none

theorem next?_eq_some_iff {s : Session} {m rest : Bytes} :
    s.next? = some (m, rest) ↔ s.ending = none ∧ IsMessage m ∧ s.unread = m ++ rest := by
  rw [← Inbound.ofStream_eq_message_iff, next?]
  cases s.ending with
  | some e => simp
  | none =>
      cases Inbound.ofStream s.unread with
      | message m' rest' => simp
      | closed => simp
      | oversize length => simp
      | cut => simp

theorem next?_eq_none_iff {s : Session} : s.next? = none ↔ s.ending ≠ none ∨ Over s.unread := by
  rw [Inbound.over_iff, next?]
  cases s.ending with
  | some e => simp
  | none =>
      cases Inbound.ofStream s.unread with
      | message m' rest' => simp
      | closed => simp
      | oversize length => simp
      | cut => simp

variable {σ : Type} [Transport σ]

/-- Serve the next message.  Where there is none, the connection ends. -/
def turn (a : Agent σ) (s : Session) : Session × Agent σ :=
  match s.next? with
  | some (m, rest) =>
      let (answer, a) := a.reply m
      (⟨rest, s.replies ++ [answer], none⟩, a)
  | none => ({ s with ending := s.ending <|> some (Ending.ofRest s.unread) }, a)

variable {a : Agent σ} {s : Session} {m rest : Bytes}

theorem turn_of_some (h : s.next? = some (m, rest)) :
    s.turn a = (⟨rest, s.replies ++ [(a.reply m).1], none⟩, (a.reply m).2) := by
  rw [turn, h]

theorem turn_of_none (h : s.next? = none) :
    s.turn a = ({ s with ending := s.ending <|> some (Ending.ofRest s.unread) }, a) := by
  rw [turn, h]

theorem ending_of_none (h : s.next? = none) : (s.turn a).1.ending ≠ none := by
  rw [turn_of_none h]
  cases s.ending with
  | none => simp
  | some e => simp

/-- A connection that has ended stays as it is. -/
theorem turn_of_ended (h : s.ending ≠ none) : s.turn a = (s, a) := by
  rcases Option.ne_none_iff_exists'.1 h with ⟨e, he⟩
  rw [turn_of_none (next?_eq_none_iff.2 (.inl h)), he]
  rcases s with ⟨unread, replies, ending⟩
  cases he
  rfl

section Split

variable {messages : List Bytes}

theorem next?_of_nil (h : Wire.Split IsMessage s.unread [] rest) : s.next? = none := by
  have hunread : s.unread = rest := h.whole
  exact next?_eq_none_iff.2 (.inr (hunread ▸ h.ended))

theorem next?_of_cons (hending : s.ending = none)
    (h : Wire.Split IsMessage s.unread (m :: messages) rest) :
    s.next? = some (m, messages.flatten ++ rest) ∧
      Wire.Split IsMessage (messages.flatten ++ rest) messages rest := by
  have hunread : s.unread = m ++ (messages.flatten ++ rest) := by
    rw [h.whole, List.flatten_cons, List.append_assoc]
  refine ⟨next?_eq_some_iff.2 ⟨hending, h.each m List.mem_cons_self, hunread⟩, rfl, ?_, h.ended⟩
  intro m' hmem
  exact h.each m' (List.mem_cons_of_mem m hmem)

end Split

/-! ### Connections with the same messages -/

/-- The same messages are still to come, whatever stands behind them. -/
structure Alike (s t : Session) : Prop where
  replies : s.replies = t.replies
  ending : s.ending = none ↔ t.ending = none
  messages : ∃ messages rest rest', Wire.Split IsMessage s.unread messages rest ∧
    Wire.Split IsMessage t.unread messages rest'

/-- A turn does the same to two such connections, and to the agent. -/
theorem Alike.turn {t : Session} (h : Alike s t) (a : Agent σ) :
    Alike (s.turn a).1 (t.turn a).1 ∧ (s.turn a).2 = (t.turn a).2 := by
  rcases h with ⟨hreplies, hending, messages, rest, rest', hs, ht⟩
  -- Both are open or both have ended; if they are open, the next message is the same.
  by_cases hopen : s.ending = none
  · cases messages with
    | nil =>
        have hends : (s.turn a).1.ending = none ↔ (t.turn a).1.ending = none :=
          iff_of_false (ending_of_none (next?_of_nil hs)) (ending_of_none (next?_of_nil ht))
        rw [turn_of_none (next?_of_nil hs), turn_of_none (next?_of_nil ht)] at hends ⊢
        exact ⟨⟨hreplies, hends, [], rest, rest', hs, ht⟩, rfl⟩
    | cons m messages =>
        rcases next?_of_cons hopen hs with ⟨hnext, hs'⟩
        rcases next?_of_cons (hending.1 hopen) ht with ⟨hnext', ht'⟩
        rw [turn_of_some hnext, turn_of_some hnext', hreplies]
        exact ⟨⟨rfl, Iff.rfl, messages, rest, rest', hs', ht'⟩, rfl⟩
  · have hclosed : t.ending ≠ none := fun ht => hopen (hending.2 ht)
    rw [turn_of_ended hopen, turn_of_ended hclosed]
    exact ⟨⟨hreplies, hending, messages, rest, rest', hs, ht⟩, rfl⟩

end Session

/-! ## What was served -/

/-- A message that was served, and what went out for it. -/
structure Handled (ι : Type) where
  client : ι
  message : Bytes
  reply : Bytes

section Served

variable {σ ι : Type} [Transport σ] {a : Agent σ} {stream : Bytes} {served : List (Handled ι)}
  {s : Session}

/-- What has been served so far is what the agent has been called with, and what it replied. -/
structure Called (a : Agent σ) (served : List (Handled ι)) (after : Agent σ) : Prop where
  agent : after = a.afterCalls (served.map Handled.message)
  replies : served.map Handled.reply = a.replies (served.map Handled.message)
  quiet : ∀ h ∈ served, a.Quiet h.message → h.reply = (a.reply h.message).1

theorem Called.nil (a : Agent σ) : Called (ι := ι) a [] a where
  agent := rfl
  replies := rfl
  quiet := by
    intro h hmem
    cases hmem

theorem Called.concat {after : Agent σ} (h : Called a served after) (k : ι) (m : Bytes) :
    Called a (served ++ [⟨k, m, (after.reply m).1⟩]) (after.reply m).2 where
  agent := by
    rw [List.map_append, Agent.afterCalls_append, ← h.agent, Agent.reply_eq]
    rfl
  replies := by
    rw [List.map_append, List.map_append, Agent.replies_append, ← h.agent, h.replies,
      Agent.reply_eq]
    rfl
  quiet := by
    intro last hmem hquiet
    rcases List.mem_append.1 hmem with hearlier | hlast
    · exact h.quiet last hearlier hquiet
    · -- The agent has changed in its token only.
      rcases Agent.exists_afterCalls a (served.map Handled.message) with ⟨token, hagent⟩
      rw [List.mem_singleton.1 hlast] at hquiet ⊢
      rw [h.agent, hagent, Agent.reply_of_quiet hquiet]

/-- A client has the replies to its messages, which are the beginning of its stream; if its
connection has ended, no message is left. -/
structure Follows (stream : Bytes) (own : List (Handled ι)) (s : Session) : Prop where
  replies : s.replies = own.map Handled.reply
  stream : stream = (own.map Handled.message).flatten ++ s.unread
  each : ∀ h ∈ own, IsMessage h.message
  ended : ∀ e, s.ending = some e → Over s.unread ∧ e = Ending.ofRest s.unread

theorem Follows.nil (stream : Bytes) : Follows (ι := ι) stream [] (.ofStream stream) where
  replies := rfl
  stream := rfl
  each := by
    intro h hmem
    cases hmem
  ended := by
    intro e hended
    cases hended

/-- When the connection has ended, the messages that were served are all there are. -/
theorem Follows.split (h : Follows stream served s) {e : Ending} (hended : s.ending = some e) :
    Wire.Split IsMessage stream (served.map Handled.message) s.unread where
  whole := h.stream
  each := by
    intro m hmem
    rcases List.mem_map.1 hmem with ⟨last, hlast, rfl⟩
    exact h.each last hlast
  ended := (h.ended e hended).1

/-- However far the client has come, its messages were served from the first one on. -/
theorem Follows.isPrefix (h : Follows stream served s) {messages : List Bytes} {rest : Bytes}
    (hsplit : Wire.Split IsMessage stream messages rest) :
    served.map Handled.message <+: messages := by
  -- What was served and what is still to come are a split of the stream, of which there is one.
  rcases Inbound.exists_split s.unread with ⟨later, behind, hunread⟩
  have hwhole : Wire.Split IsMessage stream (served.map Handled.message ++ later) behind := by
    refine ⟨?_, ?_, hunread.ended⟩
    · rw [h.stream, hunread.whole, List.flatten_append, List.append_assoc]
    · intro m hmem
      rcases List.mem_append.1 hmem with hserved | hlater
      · rcases List.mem_map.1 hserved with ⟨last, hlast, rfl⟩
        exact h.each last hlast
      · exact hunread.each m hlater
  refine ⟨later, ?_⟩
  exact (hwhole.unique (fun _ hm => hm.delimited) hsplit).1

theorem Follows.turn_of_none (h : Follows stream served s) (hnext : s.next? = none)
    (after : Agent σ) : Follows stream served (s.turn after).1 := by
  rw [Session.turn_of_none hnext]
  refine ⟨h.replies, h.stream, h.each, ?_⟩
  intro e hended
  -- The connection may have ended before; then it keeps the ending that it has.
  cases hbefore : s.ending with
  | some e' =>
      have he : e' = e := by
        simpa [hbefore] using hended
      exact h.ended e (by rw [hbefore, he])
  | none =>
      have he : Ending.ofRest s.unread = e := by
        simpa [hbefore] using hended
      rcases Session.next?_eq_none_iff.1 hnext with hopen | hover
      · exact absurd hbefore hopen
      · exact ⟨hover, he.symm⟩

theorem Follows.turn_of_some (h : Follows stream served s) {m rest : Bytes}
    (hnext : s.next? = some (m, rest)) (k : ι) (after : Agent σ) :
    Follows stream (served ++ [⟨k, m, (after.reply m).1⟩]) (s.turn after).1 := by
  rcases Session.next?_eq_some_iff.1 hnext with ⟨_, hm, hunread⟩
  rw [Session.turn_of_some hnext]
  refine ⟨?_, ?_, ?_, ?_⟩
  · rw [h.replies, List.map_append]
    rfl
  · rw [h.stream, hunread]
    simp
  · intro last hmem
    rcases List.mem_append.1 hmem with hearlier | hlast
    · exact h.each last hearlier
    · rw [List.mem_singleton.1 hlast]
      exact hm
  · intro e hended
    cases hended

end Served

/-! ## All clients -/

/-- An agent and the clients that are connected to it. -/
@[ext]
structure Shared (σ ι : Type) where
  agent : Agent σ
  sessions : ι → Session

namespace Shared

variable {σ ι : Type} [Transport σ] [DecidableEq ι]

/-- All clients at the beginning of their streams. -/
def ofStreams (a : Agent σ) (streams : ι → Bytes) : Shared σ ι :=
  ⟨a, fun k => Session.ofStream (streams k)⟩

/-- It is the turn of one client. -/
def turn (w : Shared σ ι) (k : ι) : Shared σ ι :=
  ⟨((w.sessions k).turn w.agent).2, Function.update w.sessions k ((w.sessions k).turn w.agent).1⟩

/-- The message that a turn serves, if there is one. -/
def handled (w : Shared σ ι) (k : ι) : List (Handled ι) :=
  match (w.sessions k).next? with
  | some (m, _) => [⟨k, m, (w.agent.reply m).1⟩]
  | none => []

/-- One turn after the other. -/
def run (w : Shared σ ι) (schedule : List ι) : Shared σ ι :=
  schedule.foldl turn w

/-- The messages that are served, in the order in which the agent gets them. -/
def history : Shared σ ι → List ι → List (Handled ι)
  | _, [] => []
  | w, k :: schedule => w.handled k ++ (w.turn k).history schedule

/-- What was served of one client. -/
def own (k : ι) (served : List (Handled ι)) : List (Handled ι) :=
  served.filter fun h => h.client = k

variable {w : Shared σ ι} {k : ι} {a : Agent σ} {streams : ι → Bytes}

theorem run_concat (w : Shared σ ι) (schedule : List ι) (k : ι) :
    w.run (schedule ++ [k]) = (w.run schedule).turn k :=
  List.foldl_concat turn w k schedule

theorem history_concat (w : Shared σ ι) (schedule : List ι) (k : ι) :
    w.history (schedule ++ [k]) = w.history schedule ++ (w.run schedule).handled k := by
  induction schedule generalizing w with
  | nil => simp [history, run]
  | cons j schedule ih =>
      rw [List.cons_append, history, ih, history, List.append_assoc]
      rfl

theorem turn_agent (w : Shared σ ι) (k : ι) :
    (w.turn k).agent = ((w.sessions k).turn w.agent).2 := rfl

theorem turn_self (w : Shared σ ι) (k : ι) :
    (w.turn k).sessions k = ((w.sessions k).turn w.agent).1 :=
  Function.update_self k _ w.sessions

theorem turn_of_ne {j : ι} (hj : j ≠ k) (w : Shared σ ι) :
    (w.turn k).sessions j = w.sessions j :=
  Function.update_of_ne hj _ w.sessions

theorem own_concat_self (k : ι) (served : List (Handled ι)) (m r : Bytes) :
    own k (served ++ [⟨k, m, r⟩]) = own k served ++ [⟨k, m, r⟩] := by
  simp [own]

theorem own_concat_of_ne {j : ι} (hj : j ≠ k) (served : List (Handled ι)) (m r : Bytes) :
    own j (served ++ [⟨k, m, r⟩]) = own j served := by
  simp [own, Ne.symm hj]

/-! ## What a run tells -/

/-- What has been served so far tells the state of the agent and of each client. -/
structure Tells (a : Agent σ) (streams : ι → Bytes) (w : Shared σ ι)
    (served : List (Handled ι)) : Prop where
  called : Called a served w.agent
  follows : ∀ k, Follows (streams k) (own k served) (w.sessions k)

theorem tells_ofStreams (a : Agent σ) (streams : ι → Bytes) :
    Tells a streams (ofStreams a streams) [] :=
  ⟨.nil a, fun k => .nil (streams k)⟩

/-- A turn serves one message more, or it ends a connection. -/
theorem Tells.turn {served : List (Handled ι)} (h : Tells a streams w served) (k : ι) :
    Tells a streams (w.turn k) (served ++ w.handled k) := by
  cases hnext : (w.sessions k).next? with
  | none =>
      have hagent : (w.turn k).agent = w.agent := by
        rw [turn_agent, Session.turn_of_none hnext]
      have hhandled : w.handled k = [] := by
        rw [handled, hnext]
      rw [hhandled, List.append_nil]
      refine ⟨hagent ▸ h.called, ?_⟩
      intro j
      by_cases hj : j = k
      · rw [hj, turn_self]
        exact (h.follows k).turn_of_none hnext w.agent
      · rw [turn_of_ne hj]
        exact h.follows j
  | some next =>
      rcases next with ⟨m, rest⟩
      have hagent : (w.turn k).agent = (w.agent.reply m).2 := by
        rw [turn_agent, Session.turn_of_some hnext]
      have hhandled : w.handled k = [⟨k, m, (w.agent.reply m).1⟩] := by
        rw [handled, hnext]
      rw [hhandled]
      refine ⟨hagent ▸ h.called.concat k m, ?_⟩
      intro j
      by_cases hj : j = k
      · rw [hj, turn_self, own_concat_self]
        exact (h.follows k).turn_of_some hnext k w.agent
      · rw [turn_of_ne hj, own_concat_of_ne hj]
        exact h.follows j

theorem tells_run (a : Agent σ) (streams : ι → Bytes) (schedule : List ι) :
    Tells a streams ((ofStreams a streams).run schedule)
      ((ofStreams a streams).history schedule) := by
  -- The last turn comes after a run, so the induction is on the end of the schedule.
  induction schedule using List.reverseRecOn with
  | nil => exact tells_ofStreams a streams
  | append_singleton schedule k ih =>
      rw [run_concat, history_concat]
      exact ih.turn k

/-! ## How connections end -/

/-- What stands behind the messages of a client has no part in anything but how its connection
ends. -/
theorem run_update (a : Agent σ) (streams : ι → Bytes) (k : ι) {stream rest rest' : Bytes}
    {messages : List Bytes} (h : Wire.Split IsMessage (streams k) messages rest)
    (h' : Wire.Split IsMessage stream messages rest') (schedule : List ι) :
    ((ofStreams a (Function.update streams k stream)).run schedule).agent
      = ((ofStreams a streams).run schedule).agent ∧
    (((ofStreams a (Function.update streams k stream)).run schedule).sessions k).Alike
      (((ofStreams a streams).run schedule).sessions k) ∧
    ∀ j, j ≠ k → ((ofStreams a (Function.update streams k stream)).run schedule).sessions j
      = ((ofStreams a streams).run schedule).sessions j := by
  induction schedule using List.reverseRecOn with
  | nil =>
      refine ⟨rfl, ⟨rfl, Iff.rfl, messages, rest', rest, ?_, h⟩, ?_⟩
      · simpa [run, ofStreams, Session.ofStream] using h'
      · intro j hj
        simp [run, ofStreams, hj]
  | append_singleton schedule i ih =>
      rcases ih with ⟨hagent, halike, hothers⟩
      rw [run_concat, run_concat]
      -- Only a turn of client `k` looks at the stream that is not the same in both runs.
      by_cases hi : i = k
      · rcases halike.turn ((ofStreams a streams).run schedule).agent with ⟨hlater, hsame⟩
        refine ⟨?_, ?_, ?_⟩
        · rw [turn_agent, turn_agent, hi, hagent, hsame]
        · rw [hi, turn_self, turn_self, hagent]
          exact hlater
        · intro j hj
          have hji : j ≠ i := fun h => hj (h.trans hi)
          rw [turn_of_ne hji, turn_of_ne hji, hothers j hj]
      · refine ⟨?_, ?_, ?_⟩
        · rw [turn_agent, turn_agent, hagent, hothers i hi]
        · rw [turn_of_ne (Ne.symm hi), turn_of_ne (Ne.symm hi)]
          exact halike
        · intro j hj
          by_cases hji : j = i
          · rw [hji, turn_self, turn_self, hagent, hothers i hi]
          · rw [turn_of_ne hji, turn_of_ne hji, hothers j hj]

theorem ending_turn (h : (w.sessions k).ending ≠ none) (j : ι) :
    ((w.turn j).sessions k).ending ≠ none := by
  by_cases hj : k = j
  · rw [← hj, turn_self, Session.turn_of_ended h]
    exact h
  · rw [turn_of_ne hj]
    exact h

theorem ending_run (h : (w.sessions k).ending ≠ none) (schedule : List ι) :
    ((w.run schedule).sessions k).ending ≠ none := by
  induction schedule using List.reverseRecOn with
  | nil => exact h
  | append_singleton schedule j ih =>
      rw [run_concat]
      exact ending_turn ih j

/-- With turns enough, the connection of a client ends. -/
theorem exists_ending (w : Shared σ ι) (k : ι) :
    ∃ schedule, ((w.run schedule).sessions k).ending ≠ none := by
  rcases Inbound.exists_split (w.sessions k).unread with ⟨messages, rest, hsplit⟩
  induction messages generalizing w with
  | nil =>
      refine ⟨[k], ?_⟩
      change ((w.turn k).sessions k).ending ≠ none
      rw [turn_self]
      exact Session.ending_of_none (Session.next?_of_nil hsplit)
  | cons m messages ih =>
      by_cases hopen : (w.sessions k).ending = none
      · -- One turn takes one message off.
        rcases Session.next?_of_cons hopen hsplit with ⟨hnext, hlater⟩
        have hunread : ((w.turn k).sessions k).unread = messages.flatten ++ rest := by
          rw [turn_self, Session.turn_of_some hnext]
        rcases ih (w.turn k) (hunread ▸ hlater) with ⟨schedule, hended⟩
        exact ⟨k :: schedule, hended⟩
      · exact ⟨[], hopen⟩

theorem run_append (w : Shared σ ι) (earlier later : List ι) :
    w.run (earlier ++ later) = (w.run earlier).run later :=
  List.foldl_append

/-- Any number of clients can be served to their ends. -/
theorem exists_endings (w : Shared σ ι) (order : List ι) :
    ∃ schedule, ∀ k ∈ order, ((w.run schedule).sessions k).ending ≠ none := by
  induction order with
  | nil =>
      refine ⟨[], ?_⟩
      intro k hmem
      cases hmem
  | cons k order ih =>
      rcases ih with ⟨schedule, hothers⟩
      rcases exists_ending (w.run schedule) k with ⟨more, hlast⟩
      -- Those that have ended stay so in the turns that the last one needs.
      refine ⟨schedule ++ more, ?_⟩
      intro j hmem
      rw [run_append]
      rcases List.mem_cons.1 hmem with rfl | hlater
      · exact hlast
      · exact ending_run (hothers j hlater) more

/-- All connections have ended. -/
def Ended (w : Shared σ ι) : Prop :=
  ∀ k, (w.sessions k).ending ≠ none

/-- Every run can be continued until all connections have ended. -/
theorem exists_ended (w : Shared σ ι) (schedule : List ι) {order : List ι}
    (hall : ∀ k, k ∈ order) : ∃ more, (w.run (schedule ++ more)).Ended := by
  rcases exists_endings (w.run schedule) order with ⟨more, hended⟩
  refine ⟨more, ?_⟩
  intro k
  rw [run_append]
  exact hended k (hall k)

end Shared

end Connection

end TokenAgent
