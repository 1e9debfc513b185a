import TokenAgent.Proofs.Agent.Listing
import TokenAgent.Proofs.Agent.Run
import TokenAgent.Proofs.Token.KeyRequest

/-!
# The log of a run

Every operation sends a segment of commands to the token, possibly an empty one, and does nothing
else to it (`Agent.exists_segment`).  On a simulated token that is ready, a segment goes to the
end of the log and takes one entry of the script for each of its commands, as long as there are
any.

* `Agent.Segment` — the commands that an operation sends;
* `Agent.Accounts`, `Agent.Log` — what one operation, and a run, do to log and script;
* `Agent.after_log` — the log of a run is made up of its segments.
-/

namespace TokenAgent

namespace Agent

open Exchange Running Token

/-! ## Segments -/

theorem filterMap_getElem?_range {α : Type} (list : List α) :
    (List.range list.length).filterMap (fun k => list[k]?) = list := by
  induction list using List.reverseRecOn with
  | nil => rfl
  | append_singleton list last ih =>
      -- Positions before the last one see the list without its end.
      have hfront : (List.range list.length).filterMap (fun k => (list ++ [last])[k]?)
          = (List.range list.length).filterMap fun k => list[k]? := by
        apply List.filterMap_congr
        intro k hk
        exact List.getElem?_append_left (List.mem_range.1 hk)
      rw [List.length_append, List.length_singleton, List.range_succ, List.filterMap_append,
        hfront, ih]
      simp

/-- The path of a key has nothing to do with the key. -/
theorem map_keyRequest_keeping (list : List Identity) (index : Nat)
    (outcome : Except Error KeyBlob) :
    (list.modify index fun i => i.keeping outcome).map keyRequest = list.map keyRequest := by
  apply List.ext_getElem?
  intro k
  rw [List.getElem?_map, List.getElem?_map, List.getElem?_modify]
  cases list[k]? with
  | none => rfl
  | some i =>
      by_cases hk : index = k
      · simp only [hk, if_true]
        rfl
      · simp only [hk, if_false]
        rfl

section Segments

variable {σ ρ : Type} [Transport σ]

/-- A message asks for a signature with a key on offer, and its challenge can be read. -/
def Signs (a : Agent σ) (message : Bytes) (i : Identity) (challenge : Bytes) : Prop :=
  ∃ request, Request.decode message = .ok (.sign request) ∧ a.find? request.key = some i ∧
    HasChallenge request challenge

/-- The commands that an operation sends to the token. -/
inductive Segment (a : Agent σ) : Operation ρ → List Command → Prop where
  | handle {message challenge : Bytes} {i : Identity} {sent : List Command}
      (h : Signs a message i challenge) (hsent : SentFor a.timing i challenge a.token sent) :
      Segment a (.handle message) sent
  | handleOther {message : Bytes} (h : ∀ i challenge, ¬ Signs a message i challenge) :
      Segment a (.handle message) []
  | publicKey (i : Identity) : Segment a (.publicKey i) [keyRequest i]
  | sign {i : Identity} {challenge : Bytes} {sent : List Command}
      (hsent : SentFor a.timing i challenge a.token sent) : Segment a (.sign i challenge) sent
  | exchange (command : Command) : Segment a (.exchange command) [command]
  | loadKey {index : Nat} {i : Identity} (h : a.identities[index]? = some i) :
      Segment a (.loadKey index) [keyRequest i]
  | loadKeyOutside {index : Nat} (h : a.identities[index]? = none) :
      Segment a (.loadKey index) []
  | loadKeys : Segment a .loadKeys (a.identities.map keyRequest)
  | add (i : Identity) : Segment a (.add i) []
  | remove (index : Nat) : Segment a (.remove index) []
  | direct (direction : ρ) : Segment a (.direct direction) []

/-- The token after commands, sent with the timing of the agent. -/
def tokenAfter (a : Agent σ) (sent : List Command) : σ :=
  Exchange.after a.token (sent.map fun c => (a.timing, c))

theorem publicKey_sends (i : Identity) (a : Agent σ) :
    ∃ outcome, publicKey i a = settled outcome { a with token := a.tokenAfter [keyRequest i] } :=
  ⟨_, publicKey_of_settled (Token.publicKey_eq a.timing i a.token)⟩

theorem exchange_sends (command : Command) (a : Agent σ) :
    ∃ outcome, exchange command a = settled outcome { a with token := a.tokenAfter [command] } :=
  ⟨_, onToken_of_settled (run_eq_perform a.timing command a.token)⟩

theorem sign_sentFor (i : Identity) (challenge : Bytes) (a : Agent σ) :
    ∃ sent outcome, SentFor a.timing i challenge a.token sent ∧
      sign i challenge a = settled outcome { a with token := a.tokenAfter sent } := by
  rcases exists_sentFor a.timing i challenge a.token with ⟨sent, outcome, hsent, hsign⟩
  exact ⟨sent, outcome, hsent, onToken_of_settled hsign⟩

/-- A message that asks for no signature, or for one that cannot be made, reaches no token: what
it comes to is told by the identities. -/
theorem handle_of_not_signs {a : Agent σ} {message : Bytes}
    (h : ∀ i challenge, ¬ Signs a message i challenge) :
    ∃ outcome, ∀ token : σ,
      handle message { a with token := token } = settled outcome { a with token := token } := by
  cases hdecode : Request.decode message with
  | error e =>
      refine ⟨.error (.decode e), ?_⟩
      intro token
      exact handle_of_error hdecode
  | ok request =>
      cases request with
      | identities =>
          refine ⟨.ok a.identitiesAnswer, ?_⟩
          intro token
          exact handle_identities hdecode
      | sign request =>
          cases hkey : a.find? request.key with
          | none =>
              refine ⟨.ok Answer.failure, ?_⟩
              intro token
              exact handle_unknown hdecode hkey
          | some i =>
              have hnone : ∀ challenge, ¬ HasChallenge request challenge := by
                intro challenge hchallenge
                exact h i challenge ⟨request, hdecode, hkey, hchallenge⟩
              rcases challenge_of_none hnone with ⟨missing, left, hread⟩
              refine ⟨.error (.decode (.unexpectedEnd missing)), ?_⟩
              intro token
              have hkept : { a with token := token }.find? request.key = some i := hkey
              exact handle_unreadable hdecode hkept hread

theorem handle_of_signs {a : Agent σ} {message challenge : Bytes} {i : Identity}
    (h : Signs a message i challenge) :
    ∃ sent outcome, SentFor a.timing i challenge a.token sent ∧
      handle message a = settled outcome { a with token := a.tokenAfter sent } := by
  rcases h with ⟨request, hdecode, hkey, hchallenge⟩
  rcases challenge_of_has hchallenge with ⟨left, hread⟩
  rcases sign_sentFor i challenge a with ⟨sent, outcome, hsent, hsign⟩
  refine ⟨sent, outcome >>= fun signature => .ok (Answer.signature signature), hsent, ?_⟩
  rw [handle_readable hdecode hkey hread]
  exact bind_settled hsign fun _ => rfl

theorem loadKey_sends {index : Nat} {i : Identity} {a : Agent σ}
    (h : a.identities[index]? = some i) :
    ∃ outcome a', loadKey index a = settled outcome a' ∧ a'.timing = a.timing ∧
      a'.token = a.tokenAfter [keyRequest i] ∧
      a'.identities.map keyRequest = a.identities.map keyRequest := by
  rcases publicKey_sends i a with ⟨outcome, hkey⟩
  exact ⟨outcome, _, loadKey_settled h hkey, rfl, rfl, map_keyRequest_keeping _ _ _⟩

theorem loadEach_sends (indices : List Nat) (a : Agent σ) :
    (a.loadEach indices).token
      = a.tokenAfter (indices.filterMap fun k => (a.identities.map keyRequest)[k]?) := by
  induction indices generalizing a with
  | nil => rfl
  | cons index rest ih =>
      cases hat : a.identities[index]? with
      | none =>
          have hnone : (a.identities.map keyRequest)[index]? = none := by
            rw [List.getElem?_map, hat]
            rfl
          rw [loadEach, loadKey_outside hat, List.filterMap_cons_none hnone]
          exact ih a
      | some i =>
          have hsome : (a.identities.map keyRequest)[index]? = some (keyRequest i) := by
            rw [List.getElem?_map, hat]
            rfl
          rcases loadKey_sends hat with ⟨outcome, a', hload, htiming, htoken, hrequests⟩
          -- The later requests are made of the same paths, and sent with the same timing.
          rw [loadEach_cons hload, ih, List.filterMap_cons_some hsome, tokenAfter, htiming, htoken,
            hrequests]
          rfl

/-- What the token takes from an operation beside the commands that it is sent. -/
def directed (follow : σ → ρ → σ) (token : σ) : Operation ρ → σ
  | .direct direction => follow token direction
  | _ => token

theorem exists_segment (follow : σ → ρ → σ) (a : Agent σ) (operation : Operation ρ) :
    ∃ sent, Segment a operation sent ∧
      (perform follow a operation).2.token = directed follow (a.tokenAfter sent) operation := by
  cases operation with
  | handle message =>
      by_cases hsigns : ∃ i challenge, Signs a message i challenge
      · rcases hsigns with ⟨i, challenge, hsigns⟩
        rcases handle_of_signs hsigns with ⟨sent, outcome, hsent, hhandle⟩
        refine ⟨sent, .handle hsigns hsent, ?_⟩
        rw [perform, hhandle, settle_settled]
        rfl
      · have hother : ∀ i challenge, ¬ Signs a message i challenge := by
          intro i challenge hsigned
          exact hsigns ⟨i, challenge, hsigned⟩
        rcases handle_of_not_signs hother with ⟨outcome, hhandle⟩
        refine ⟨[], .handleOther hother, ?_⟩
        rw [perform, hhandle a.token, settle_settled]
        rfl
  | publicKey i =>
      rcases publicKey_sends i a with ⟨outcome, hkey⟩
      refine ⟨_, .publicKey i, ?_⟩
      rw [perform, hkey, settle_settled]
      rfl
  | sign i challenge =>
      rcases sign_sentFor i challenge a with ⟨sent, outcome, hsent, hsign⟩
      refine ⟨sent, .sign hsent, ?_⟩
      rw [perform, hsign, settle_settled]
      rfl
  | exchange command =>
      rcases exchange_sends command a with ⟨outcome, hexchange⟩
      refine ⟨_, .exchange command, ?_⟩
      rw [perform, hexchange, settle_settled]
      rfl
  | loadKey index =>
      cases hat : a.identities[index]? with
      | none =>
          refine ⟨[], .loadKeyOutside hat, ?_⟩
          rw [perform, loadKey_outside hat]
          rfl
      | some i =>
          rcases loadKey_sends hat with ⟨outcome, a', hload, _, htoken, _⟩
          refine ⟨_, .loadKey hat, ?_⟩
          rw [perform, hload, settle_settled]
          exact htoken
  | loadKeys =>
      -- The positions of the list are asked for one by one, and each of them holds an identity.
      refine ⟨_, .loadKeys, ?_⟩
      have hall : (List.range a.identities.length).filterMap
          (fun k => (a.identities.map keyRequest)[k]?) = a.identities.map keyRequest := by
        rw [← List.length_map (f := keyRequest)]
        exact filterMap_getElem?_range _
      have htoken := loadEach_sends (List.range a.identities.length) a
      rw [hall] at htoken
      exact htoken
  | add i => exact ⟨[], .add i, rfl⟩
  | remove index => exact ⟨[], .remove index, rfl⟩
  | direct direction => exact ⟨[], .direct direction, rfl⟩

end Segments

/-! ## Simulated tokens -/

section Simulated

variable {ρ : Type}

/-- A direction that puts replies at the end of the script. -/
def Queues (follow : Simulator → ρ → Simulator) (replies : ρ → List Simulator.Reply) : Prop :=
  ∀ s direction, follow s direction = { s with script := s.script ++ replies direction }

theorem queues_queue : Queues Simulator.queue fun reply => [reply] := by
  intro s reply
  rfl

/-- The replies that an operation puts at the end of the script. -/
def queued (replies : ρ → List Simulator.Reply) : Operation ρ → List Simulator.Reply
  | .direct direction => replies direction
  | _ => []

/-- The commands that an operation sends, and what becomes of log and script. -/
structure Accounts (follow : Simulator → ρ → Simulator) (replies : ρ → List Simulator.Reply)
    (a : Agent Simulator) (operation : Operation ρ) (sent : List Command) : Prop where
  segment : Segment a operation sent
  log : (perform follow a operation).2.token.commands
    = a.token.commands ++ sent.map Command.toBytes
  /-- Each command takes the first entry that is left, if there is one. -/
  script : (perform follow a operation).2.token.script
    = a.token.script.drop sent.length ++ queued replies operation

/-- The segments of a run, one for each operation. -/
inductive Log (follow : Simulator → ρ → Simulator) (replies : ρ → List Simulator.Reply) :
    Agent Simulator → List (Operation ρ) → List (List Command) → Prop where
  | nil (a : Agent Simulator) : Log follow replies a [] []
  | cons {a : Agent Simulator} {operation : Operation ρ} {rest : List (Operation ρ)}
      {sent : List Command} {segments : List (List Command)}
      (first : Accounts follow replies a operation sent)
      (later : Log follow replies (perform follow a operation).2 rest segments) :
      Log follow replies a (operation :: rest) (sent :: segments)

variable {follow : Simulator → ρ → Simulator} {replies : ρ → List Simulator.Reply}
  {a : Agent Simulator} {operations : List (Operation ρ)} {segments : List (List Command)}

theorem directed_of_queues (hqueues : Queues follow replies) (s : Simulator)
    (operation : Operation ρ) :
    directed follow s operation = { s with script := s.script ++ queued replies operation } := by
  cases operation with
  | direct direction => exact hqueues s direction
  | _ => simp [directed, queued]

theorem exists_accounts (hqueues : Queues follow replies) (h : Ready a.token)
    (operation : Operation ρ) :
    Ready (perform follow a operation).2.token ∧
      ∃ sent, Accounts follow replies a operation sent := by
  rcases exists_segment follow a operation with ⟨sent, hsegment, htoken⟩
  rcases (sent_after a.timing a.token sent).log h with ⟨hready, hscript, hlog⟩
  -- Queueing replies changes the script alone, so the token stays ready and its log is kept.
  rw [directed_of_queues hqueues] at htoken
  refine ⟨?_, sent, hsegment, ?_, ?_⟩
  · rw [htoken]
    exact hready
  · rw [htoken]
    exact hlog
  · rw [htoken, ← hscript]
    rfl

theorem exists_log (hqueues : Queues follow replies) (h : Ready a.token)
    (operations : List (Operation ρ)) : ∃ segments, Log follow replies a operations segments := by
  induction operations generalizing a with
  | nil => exact ⟨[], .nil a⟩
  | cons operation rest ih =>
      rcases exists_accounts hqueues h operation with ⟨hready, sent, hsent⟩
      rcases ih hready with ⟨segments, hsegments⟩
      exact ⟨sent :: segments, .cons hsent hsegments⟩

theorem Log.commands_after (h : Log follow replies a operations segments) :
    (after follow a operations).token.commands
      = a.token.commands ++ segments.flatten.map Command.toBytes := by
  induction h with
  | nil a => simp [after, performAll]
  | cons first later ih =>
      rw [after_cons, ih, first.log, List.flatten_cons, List.map_append, List.append_assoc]

/-- Entries are taken from the front of the script, with later ones queued behind it, and no more
of them than there are commands. -/
theorem Log.exists_taken (h : Log follow replies a operations segments) :
    ∃ taken, a.token.script ++ operations.flatMap (queued replies)
        = taken ++ (after follow a operations).token.script ∧
      taken.length ≤ segments.flatten.length := by
  induction h with
  | nil a => exact ⟨[], by simp [after, performAll], Nat.le_refl 0⟩
  | @cons a operation rest sent segments first later ih =>
      -- The first operation takes what stands in front, and queues its replies behind the rest.
      rcases ih with ⟨taken, htaken, hlength⟩
      refine ⟨a.token.script.take sent.length ++ taken, ?_, ?_⟩
      · rw [after_cons, List.append_assoc, ← htaken, first.script, List.flatMap_cons]
        simp only [← List.append_assoc, List.take_append_drop]
      · rw [List.length_append, List.flatten_cons, List.length_append, List.length_take]
        omega

/-- The log of a run is made up of one segment for each operation, in the order of the
operations, and no more entries of the script are taken than there are commands. -/
theorem after_log (hqueues : Queues follow replies) (h : Ready a.token)
    (operations : List (Operation ρ)) :
    (∀ i, (keyRequest i).toBytes
        = [0x80, 0x02, 0x00, 0x01, 0x15] ++ (DerivationPath.ofIdentity i .signing).toBytes ∧
      (DerivationPath.ofIdentity i .signing).toBytes.length = 21) ∧
    ∃ segments, Log follow replies a operations segments ∧
      (after follow a operations).token.commands
        = a.token.commands ++ segments.flatten.map Command.toBytes ∧
      ∃ taken, a.token.script ++ operations.flatMap (queued replies)
          = taken ++ (after follow a operations).token.script ∧
        taken.length ≤ segments.flatten.length := by
  constructor
  · intro i
    exact ⟨toBytes_keyRequest i, length_signPath i⟩
  · rcases exists_log hqueues h operations with ⟨segments, hlog⟩
    exact ⟨segments, hlog, hlog.commands_after, hlog.exists_taken⟩

/-- A token that stays silent is asked for both keys all the same. -/
theorem after_log_silent :
    let one := Identity.ofHost "one"
    let two := Identity.ofHost "two"
    let command : Command := ⟨0x80, 0x04, 0x00, 0x81, [0x01], by decide⟩
    let a : Agent Simulator := ⟨Simulator.fresh, Timing.default, [one, two]⟩
    let operations : List (Operation Simulator.Reply) :=
      [.direct .silence, .loadKeys, .exchange command]
    (Queues Simulator.queue fun reply => [reply]) ∧ Ready a.token ∧
    (after Simulator.queue a operations).token.commands
      = [keyRequest one, keyRequest two, command].map Command.toBytes := by
  intro one two command a operations
  have hready : Ready a.token := ⟨rfl, rfl⟩
  rcases (after_log queues_queue hready operations).2 with ⟨segments, hlog, hcommands, _⟩
  refine ⟨queues_queue, hready, ?_⟩
  rw [hcommands]
  -- Each of the three operations has one segment only.
  change Log _ _ a [.direct Simulator.Reply.silence, .loadKeys, .exchange command]
    segments at hlog
  cases hlog with
  | cons first later =>
      cases first.segment
      cases later with
      | cons second later =>
          cases second.segment
          cases later with
          | cons third later =>
              cases third.segment
              cases later
              rfl

end Simulated

end Agent

end TokenAgent
