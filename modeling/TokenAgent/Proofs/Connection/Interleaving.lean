import Mathlib.Data.List.Count
import TokenAgent.Proofs.Connection.Sharing

/-!
# The order of service

Where at most one client makes the token sign, it does not matter in which order clients are
served: each turn does what it would do if its client were alone (`Shared.run_eq_alone`), so all
schedules come to the same, and to what serving the streams one after the other comes to
(`Shared.run_interleaved`).
-/

namespace TokenAgent

namespace Connection

open Inbound (IsMessage Over)

/-! ## Streams that leave the token alone -/

section Quiet

variable {σ : Type} {a : Agent σ} {stream m rest : Bytes}

/-- No message of the stream makes the token sign. -/
def QuietStream (a : Agent σ) (stream : Bytes) : Prop :=
  ∀ messages rest, Wire.Split IsMessage stream messages rest → ∀ m ∈ messages, a.Quiet m

theorem QuietStream.first (h : QuietStream a (m ++ rest)) (hm : IsMessage m) : a.Quiet m := by
  rcases Inbound.exists_split rest with ⟨messages, behind, hsplit⟩
  exact h _ _ (hsplit.cons hm) m List.mem_cons_self

theorem QuietStream.later (h : QuietStream a (m ++ rest)) (hm : IsMessage m) :
    QuietStream a rest := by
  intro messages behind hsplit m' hmem
  exact h _ _ (hsplit.cons hm) m' (List.mem_cons_of_mem m hmem)

/-- If at most one client makes the token sign, there is one that is the only one that may. -/
theorem exists_only {ι : Type} [Nonempty ι] {streams : ι → Bytes}
    (h : ∀ j k, ¬ QuietStream a (streams j) → ¬ QuietStream a (streams k) → j = k) :
    ∃ k₀, ∀ k, k ≠ k₀ → QuietStream a (streams k) := by
  by_cases hsome : ∃ k₀, ¬ QuietStream a (streams k₀)
  · rcases hsome with ⟨k₀, hk₀⟩
    refine ⟨k₀, ?_⟩
    intro k hk
    by_contra hloud
    exact hk (h k k₀ hloud hk₀)
  · rcases (inferInstance : Nonempty ι) with ⟨k₀⟩
    refine ⟨k₀, ?_⟩
    intro k _
    by_contra hloud
    exact hsome ⟨k, hloud⟩

variable [Transport σ]

/-- A quiet stream is served in the same way whatever became of the token. -/
theorem serve_of_quiet (h : QuietStream a stream) (token : σ) :
    serve { a with token := token } stream
      = ⟨(serve a stream).output, (serve a stream).ending, { a with token := token }⟩ := by
  -- Message by message: each is replied to as it is at first, so the rest finds the same agent.
  induction stream using Inbound.stream_induction with
  | ended stream hover => rw [serve_over hover, serve_over hover]
  | message m rest hm ih =>
      have hreply := Agent.reply_of_quiet (h.first hm) token
      have hfirst := Agent.reply_of_quiet (h.first hm) a.token
      have hlater := ih (h.later hm)
      rw [serve_message hm, serve_message hm, hreply, hfirst]
      simp only [hlater]

end Quiet

/-! ## Clients alone -/

namespace Session

variable {σ : Type} [Transport σ] {a : Agent σ} {s : Session}

/-- Turns of one client and no other. -/
def turns (a : Agent σ) (s : Session) : Nat → Session × Agent σ
  | 0 => (s, a)
  | n + 1 => (turns a s n).1.turn (turns a s n).2

theorem exists_turn (a : Agent σ) (s : Session) :
    ∃ token, (s.turn a).2 = { a with token := token } := by
  cases hnext : s.next? with
  | none =>
      rw [turn_of_none hnext]
      exact ⟨a.token, rfl⟩
  | some next =>
      rcases next with ⟨m, rest⟩
      rw [turn_of_some hnext, Agent.reply_eq]
      exact Agent.exists_afterCalls a [m]

theorem exists_turns (a : Agent σ) (s : Session) (n : Nat) :
    ∃ token, (turns a s n).2 = { a with token := token } := by
  induction n with
  | zero => exact ⟨a.token, rfl⟩
  | succ n ih =>
      rcases ih with ⟨token, hturns⟩
      rw [turns, hturns]
      exact exists_turn { a with token := token } (turns a s n).1

/-- A turn of a client with a quiet stream changes nothing but its own session, and this in the
same way whatever became of the token. -/
theorem turn_of_quiet (h : QuietStream a s.unread) (token : σ) :
    s.turn { a with token := token } = ((s.turn a).1, { a with token := token }) ∧
      QuietStream a (s.turn a).1.unread := by
  cases hnext : s.next? with
  | none =>
      rw [turn_of_none hnext, turn_of_none hnext]
      exact ⟨rfl, h⟩
  | some next =>
      rcases next with ⟨m, rest⟩
      rcases next?_eq_some_iff.1 hnext with ⟨_, hm, hunread⟩
      rw [hunread] at h
      rw [turn_of_some hnext, turn_of_some hnext, Agent.reply_of_quiet (h.first hm)]
      exact ⟨rfl, h.later hm⟩

theorem turns_of_quiet (h : QuietStream a s.unread) (n : Nat) :
    (turns a s n).2 = a ∧ QuietStream a (turns a s n).1.unread := by
  induction n with
  | zero => exact ⟨rfl, h⟩
  | succ n ih =>
      rcases ih with ⟨hagent, hquiet⟩
      rcases turn_of_quiet hquiet a.token with ⟨hturn, hlater⟩
      rw [turns, hagent]
      exact ⟨congrArg Prod.snd hturn, hlater⟩

/-- Turns alone serve the messages of the stream in their order. -/
theorem turns_follow (a : Agent σ) (stream : Bytes) (n : Nat) :
    ∃ served : List (Handled Unit), Called a served (turns a (.ofStream stream) n).2 ∧
      Follows stream served (turns a (.ofStream stream) n).1 := by
  induction n with
  | zero => exact ⟨[], .nil a, .nil stream⟩
  | succ n ih =>
      rcases ih with ⟨served, hcalled, hfollows⟩
      cases hnext : (turns a (.ofStream stream) n).1.next? with
      | none =>
          refine ⟨served, ?_, hfollows.turn_of_none hnext _⟩
          rw [turns, turn_of_none hnext]
          exact hcalled
      | some next =>
          rcases next with ⟨m, rest⟩
          refine ⟨_, ?_, hfollows.turn_of_some hnext () _⟩
          rw [turns, turn_of_some hnext]
          exact hcalled.concat () m

/-- A client that has been served to its end, alone, has what serving its stream comes to. -/
theorem serve_of_ended {stream : Bytes} {n : Nat} {e : Ending}
    (h : (turns a (.ofStream stream) n).1.ending = some e) :
    serve a stream = ⟨(turns a (.ofStream stream) n).1.replies.flatten, e,
      (turns a (.ofStream stream) n).2⟩ := by
  rcases turns_follow a stream n with ⟨served, hcalled, hfollows⟩
  rw [serve_split (hfollows.split h), hfollows.replies, hcalled.agent, hcalled.replies,
    (hfollows.ended e h).2]

end Session

/-! ## One stream after the other -/

section Order

variable {σ ι : Type} [Transport σ] {a : Agent σ} {streams : ι → Bytes} {order : List ι}

theorem exists_serve (a : Agent σ) (stream : Bytes) :
    ∃ token, (serve a stream).agent = { a with token := token } := by
  rcases Inbound.exists_split stream with ⟨messages, rest, hsplit⟩
  rw [serve_split hsplit]
  exact Agent.exists_afterCalls a messages

/-- Output and ending of a stream that is served first. -/
def result (a : Agent σ) (stream : Bytes) : Bytes × Ending :=
  ((serve a stream).output, (serve a stream).ending)

theorem serveAll_cons (a : Agent σ) (stream : Bytes) (rest : List Bytes) :
    serveAll a (stream :: rest)
      = (result a stream :: (serveAll (serve a stream).agent rest).1,
        (serveAll (serve a stream).agent rest).2) := rfl

theorem serveAll_of_quiet (hquiet : ∀ k ∈ order, QuietStream a (streams k)) (token : σ) :
    serveAll { a with token := token } (order.map streams)
      = (order.map fun k => result a (streams k), { a with token := token }) := by
  induction order with
  | nil => rfl
  | cons k order ih =>
      have hfirst := serve_of_quiet (hquiet k List.mem_cons_self) token
      have hlater := ih fun j hj => hquiet j (List.mem_cons_of_mem k hj)
      rw [List.map_cons, serveAll_cons, result, hfirst, hlater]
      rfl

/-- Streams of which one only makes the token sign can be served in any order: each has the
output that it has if it is served first. -/
theorem serveAll_of_order {k₀ : ι} (hquiet : ∀ k, k ≠ k₀ → QuietStream a (streams k))
    (hnodup : order.Nodup) (hmem : k₀ ∈ order) :
    serveAll a (order.map streams)
      = (order.map fun k => result a (streams k), (serve a (streams k₀)).agent) := by
  induction order with
  | nil => cases hmem
  | cons k order ih =>
      rcases List.nodup_cons.1 hnodup with ⟨hk, hlater⟩
      by_cases hfirst : k = k₀
      · -- Behind this stream all others are quiet.
        have hothers : ∀ j ∈ order, QuietStream a (streams j) := by
          intro j hj
          refine hquiet j ?_
          rintro rfl
          exact hk (hfirst ▸ hj)
        rcases exists_serve a (streams k) with ⟨token, hagent⟩
        rw [List.map_cons, serveAll_cons, hagent, serveAll_of_quiet hothers, ← hagent, hfirst]
        rfl
      · have hagent : (serve a (streams k)).agent = a :=
          congrArg Served.agent (serve_of_quiet (hquiet k hfirst) a.token)
        have hthere : k₀ ∈ order := by
          rcases List.mem_cons.1 hmem with h | h
          · exact absurd h.symm hfirst
          · exact h
        rw [List.map_cons, serveAll_cons, hagent, ih hlater hthere]
        rfl

end Order

namespace Shared

variable {σ ι : Type} [Transport σ] [DecidableEq ι] {a : Agent σ} {streams : ι → Bytes} {k₀ : ι}

/-- What a client comes to in turns of its own. -/
def alone (a : Agent σ) (streams : ι → Bytes) (k : ι) (n : Nat) : Session × Agent σ :=
  Session.turns a (.ofStream (streams k)) n

theorem count_concat (schedule : List ι) (j k : ι) :
    (schedule ++ [j]).count k = if j = k then schedule.count k + 1 else schedule.count k := by
  rw [List.count_append, List.count_singleton]
  by_cases hk : j = k
  · simp [hk]
  · simp [hk]

/-- One turn of a client does what it would do if the client were alone, and changes the agent
only if the client is the one that may make the token sign. -/
theorem turn_alone (hquiet : ∀ k, k ≠ k₀ → QuietStream a (streams k)) (schedule : List ι) (j : ι) :
    (alone a streams j (schedule.count j)).1.turn (alone a streams k₀ (schedule.count k₀)).2
      = ((alone a streams j ((schedule ++ [j]).count j)).1,
        (alone a streams k₀ ((schedule ++ [j]).count k₀)).2) := by
  rw [count_concat, count_concat, if_pos rfl]
  by_cases hj : j = k₀
  · rw [if_pos hj, hj]
    rfl
  · -- A quiet client finds the agent as it was at first, but for its token.
    have halone : (alone a streams j (schedule.count j)).2 = a ∧
        QuietStream a (alone a streams j (schedule.count j)).1.unread :=
      Session.turns_of_quiet (hquiet j hj) (schedule.count j)
    have hagent : ∃ token, (alone a streams k₀ (schedule.count k₀)).2 = { a with token := token } :=
      Session.exists_turns a (.ofStream (streams k₀)) (schedule.count k₀)
    have hnext : alone a streams j (schedule.count j + 1)
        = (alone a streams j (schedule.count j)).1.turn (alone a streams j (schedule.count j)).2 :=
      rfl
    rcases hagent with ⟨token, hagent⟩
    rw [if_neg hj, hnext, halone.1, hagent]
    exact (Session.turn_of_quiet halone.2 token).1

/-- Where only one client may make the token sign, each has its turns as if it were alone. -/
theorem run_eq_alone (hquiet : ∀ k, k ≠ k₀ → QuietStream a (streams k)) (schedule : List ι) :
    ((ofStreams a streams).run schedule).agent = (alone a streams k₀ (schedule.count k₀)).2 ∧
    ∀ k, ((ofStreams a streams).run schedule).sessions k
      = (alone a streams k (schedule.count k)).1 := by
  -- The number of its turns tells how far each client is, and that of client `k₀` the agent.
  induction schedule using List.reverseRecOn with
  | nil => exact ⟨rfl, fun _ => rfl⟩
  | append_singleton schedule j ih =>
      rcases ih with ⟨hagent, hsessions⟩
      have hturn := turn_alone hquiet schedule j
      rw [← hsessions, ← hagent] at hturn
      rw [run_concat]
      constructor
      · rw [turn_agent, hturn]
      · intro k
        by_cases hk : k = j
        · rw [hk, turn_self, hturn]
        · rw [turn_of_ne hk, hsessions, count_concat, if_neg (Ne.symm hk)]

theorem run_perm (hquiet : ∀ k, k ≠ k₀ → QuietStream a (streams k)) {schedule schedule' : List ι}
    (h : schedule.Perm schedule') :
    (ofStreams a streams).run schedule = (ofStreams a streams).run schedule' := by
  have hrun := run_eq_alone hquiet schedule
  have hrun' := run_eq_alone hquiet schedule'
  ext1
  · rw [hrun.1, hrun'.1, h.count_eq]
  · funext k
    rw [hrun.2, hrun'.2, h.count_eq]

/-- Served to their ends in turns, clients have what serving them in any order comes to. -/
theorem serveAll_eq_run (hquiet : ∀ k, k ≠ k₀ → QuietStream a (streams k)) {schedule : List ι}
    (hended : ((ofStreams a streams).run schedule).Ended) {order : List ι}
    (hnodup : order.Nodup) (hmem : k₀ ∈ order) :
    (serveAll a (order.map streams)).2 = ((ofStreams a streams).run schedule).agent ∧
    (serveAll a (order.map streams)).1.map (fun r => (r.1, some r.2))
      = order.map fun k => ((((ofStreams a streams).run schedule).sessions k).replies.flatten,
        (((ofStreams a streams).run schedule).sessions k).ending) := by
  rcases run_eq_alone hquiet schedule with ⟨hagent, hsessions⟩
  -- Each client is where it would be alone, and alone this is the end of its stream.
  have hserve : ∀ k, ∃ e, (((ofStreams a streams).run schedule).sessions k).ending = some e ∧
      serve a (streams k)
        = ⟨(((ofStreams a streams).run schedule).sessions k).replies.flatten, e,
          (alone a streams k (schedule.count k)).2⟩ := by
    intro k
    rcases Option.ne_none_iff_exists'.1 (hended k) with ⟨e, he⟩
    refine ⟨e, he, ?_⟩
    rw [hsessions] at he ⊢
    exact Session.serve_of_ended he
  rw [serveAll_of_order hquiet hnodup hmem]
  constructor
  · rcases hserve k₀ with ⟨e, _, hserved⟩
    rw [hserved, hagent]
  · rw [List.map_map]
    refine List.map_congr_left ?_
    intro k _
    rcases hserve k with ⟨e, he, hserved⟩
    rw [Function.comp_apply, result, hserved, he]

/-- Clients that share an agent.  In every schedule the agent is called once with each message
that is served, and each client has the replies to its own messages, which are served in the
order of its stream, all of them once its connection has ended.  A message for which no signature
is made, such as a request for the keys, a malformed one, or one for a signature with an unknown
key, is replied to as it is at first.  If at most one client makes the token sign, the order of the
turns makes no difference, and serving all clients to their ends comes to what serving the streams
one after the other in any order comes to.  Every schedule can be completed.  How the connection
of a client ends makes no difference to the agent and to the others. -/
theorem run_interleaved (a : Agent σ) (streams : ι → Bytes) :
    (∀ schedule,
      Called a ((ofStreams a streams).history schedule)
        ((ofStreams a streams).run schedule).agent ∧
      ∀ k messages rest, Wire.Split IsMessage (streams k) messages rest →
        (own k ((ofStreams a streams).history schedule)).map Handled.message <+: messages ∧
        (((ofStreams a streams).run schedule).sessions k).replies
          = (own k ((ofStreams a streams).history schedule)).map Handled.reply ∧
        ∀ e, (((ofStreams a streams).run schedule).sessions k).ending = some e →
          (own k ((ofStreams a streams).history schedule)).map Handled.message = messages ∧
          e = Ending.ofRest rest) ∧
    (∀ m, Request.decode m = .ok .identities → a.Quiet m) ∧
    (∀ m e, Request.decode m = .error e → a.Quiet m) ∧
    (∀ m request, Request.decode m = .ok (.sign request) →
      (∀ entry ∈ a.listed, entry.1.bytes ≠ request.key) → a.Quiet m) ∧
    ((∀ j k, ¬ QuietStream a (streams j) → ¬ QuietStream a (streams k) → j = k) →
      (∀ schedule schedule' : List ι, schedule.Perm schedule' →
        (ofStreams a streams).run schedule = (ofStreams a streams).run schedule') ∧
      ∀ schedule, ((ofStreams a streams).run schedule).Ended →
        ∀ order : List ι, order.Nodup → (∀ k, k ∈ order) →
          (serveAll a (order.map streams)).2 = ((ofStreams a streams).run schedule).agent ∧
          (serveAll a (order.map streams)).1.map (fun r => (r.1, some r.2))
            = order.map fun k =>
              ((((ofStreams a streams).run schedule).sessions k).replies.flatten,
                (((ofStreams a streams).run schedule).sessions k).ending)) ∧
    (∀ schedule, ∀ order : List ι, (∀ k, k ∈ order) →
      ∃ more, ((ofStreams a streams).run (schedule ++ more)).Ended) ∧
    ∀ k stream messages rest rest', Wire.Split IsMessage (streams k) messages rest →
      Wire.Split IsMessage stream messages rest' → ∀ schedule,
        ((ofStreams a (Function.update streams k stream)).run schedule).agent
          = ((ofStreams a streams).run schedule).agent ∧
        (((ofStreams a (Function.update streams k stream)).run schedule).sessions k).replies
          = (((ofStreams a streams).run schedule).sessions k).replies ∧
        ∀ j, j ≠ k → ((ofStreams a (Function.update streams k stream)).run schedule).sessions j
          = ((ofStreams a streams).run schedule).sessions j := by
  refine ⟨?_, fun _ => Agent.quiet_of_identities, fun _ _ => Agent.quiet_of_malformed,
    fun _ _ => Agent.quiet_of_unlisted, ?_, ?_, ?_⟩
  · intro schedule
    have htells := tells_run a streams schedule
    refine ⟨htells.called, ?_⟩
    intro k messages rest hsplit
    refine ⟨(htells.follows k).isPrefix hsplit, (htells.follows k).replies, ?_⟩
    intro e hended
    rcases ((htells.follows k).split hended).unique (fun _ hm => hm.delimited) hsplit with
      ⟨hmessages, hrest⟩
    exact ⟨hmessages, hrest ▸ ((htells.follows k).ended e hended).2⟩
  · intro hone
    -- Without clients there is nothing to serve; otherwise one of them may be named as loud.
    constructor
    · intro schedule schedule' hperm
      cases schedule with
      | nil => rw [hperm.symm.eq_nil]
      | cons k schedule =>
          have : Nonempty ι := ⟨k⟩
          rcases exists_only hone with ⟨k₀, hquiet⟩
          exact run_perm hquiet hperm
    · intro schedule hended order hnodup hall
      cases order with
      | nil =>
          cases schedule with
          | nil => exact ⟨rfl, rfl⟩
          | cons k schedule => cases hall k
      | cons k order =>
          have : Nonempty ι := ⟨k⟩
          rcases exists_only hone with ⟨k₀, hquiet⟩
          exact serveAll_eq_run hquiet hended hnodup (hall k₀)
  · intro schedule order hall
    exact exists_ended (ofStreams a streams) schedule hall
  · intro k stream messages rest rest' hsplit hsplit' schedule
    rcases run_update a streams k hsplit hsplit' schedule with ⟨hagent, halike, hothers⟩
    exact ⟨hagent, halike.replies, hothers⟩

end Shared

end Connection

end TokenAgent
