import TokenAgent.Proofs.Exchange.Sequence
import TokenAgent.Proofs.Token.Payloads

/-!
# Signing

Signing makes the exchanges of a challenge one after the other and stops at the first that does
not end with success.  So what it comes to is read off the outcomes that these exchanges would
have: the first refusal among them (`Token.sign_of_refused`), or else the payload of the last
(`Token.sign_of_accepted`).  This holds of every transport.

* `Token.sign_carries` — what a token is sent that answers every command with success;
* `Token.sign_simulated` — where signing with a simulated token stops, with which result, and
  what the token has received and has not answered by then.
-/

namespace TokenAgent

namespace Token

open Exchange Running

/-- Why signing stops at an exchange with this status word or failure, if it does. -/
def refusal? : Except Error Status → Option Error
  | .ok status => if status = .success then none else some (.status status)
  | .error e => some e

/-- Why signing stops at each of some exchanges. -/
def refusals (results : List (Except Error Response)) : List (Option Error) :=
  results.map fun result => refusal? (result.map Response.status)

/-- The first exchange that signing stops at is number `k`. -/
def FirstRefusal (results : List (Except Error Response)) (k : Nat) (e : Error) : Prop :=
  (refusals results)[k]? = some (some e) ∧ ∀ j < k, (refusals results)[j]? = some none

section Refusals

variable {results results' : List (Except Error Response)}

theorem refusals_congr
    (h : results.map (Except.map Response.status) = results'.map (Except.map Response.status)) :
    refusals results = refusals results' := by
  have hstatuses : ∀ results : List (Except Error Response),
      refusals results = (results.map (Except.map Response.status)).map refusal? := by
    intro results
    rw [List.map_map]
    rfl
  rw [hstatuses, hstatuses, h]

theorem refusals_of_success
    (h : ∀ result ∈ results, ∃ payload, result = .ok ⟨payload, .success⟩) :
    ∀ refusal ∈ refusals results, refusal = none := by
  intro refusal hmem
  rcases List.mem_map.1 hmem with ⟨result, hresult, rfl⟩
  rcases h result hresult with ⟨payload, rfl⟩
  rfl

/-- Signing goes on after the exchanges that end with success. -/
theorem getElem?_refusals_eq_none_iff {k : Nat} :
    (refusals results)[k]? = some none ↔
      ∃ payload, results[k]? = some (.ok ⟨payload, .success⟩) := by
  rw [refusals, List.getElem?_map, Option.map_eq_some_iff]
  constructor
  · rintro ⟨result, hresult, hnone⟩
    cases result with
    | error e => cases hnone
    | ok response =>
        rcases response with ⟨payload, status⟩
        have hstatus : status = .success := by
          by_contra hne
          simp [refusal?, Except.map, hne] at hnone
        exact ⟨payload, hstatus ▸ hresult⟩
  · rintro ⟨payload, hresult⟩
    exact ⟨_, hresult, rfl⟩

/-- Signing stops nowhere, or there is a first exchange that it stops at. -/
theorem exists_firstRefusal (results : List (Except Error Response)) :
    (∀ refusal ∈ refusals results, refusal = none) ∨ ∃ k e, FirstRefusal results k e := by
  induction results with
  | nil =>
      left
      intro refusal hmem
      cases hmem
  | cons first rest ih =>
      cases hfirst : refusal? (first.map Response.status) with
      | some e =>
          right
          refine ⟨0, e, ?_, ?_⟩
          · rw [refusals, List.map_cons, hfirst]
            rfl
          · intro j hj
            exact absurd hj (Nat.not_lt_zero j)
      | none =>
          rcases ih with hall | ⟨k, e, hk, hearlier⟩
          · left
            intro refusal hmem
            rcases List.mem_cons.1 hmem with rfl | hlater
            · exact hfirst
            · exact hall refusal hlater
          · right
            refine ⟨k + 1, e, hk, ?_⟩
            intro j hj
            cases j with
            | zero => exact congrArg some hfirst
            | succ j => exact hearlier j (Nat.lt_of_succ_lt_succ hj)

end Refusals

section Transports

variable {σ : Type} [Transport σ] {timing : Timing} {i : Identity} {challenge : Bytes} {s : σ}

/-! ## One command at a time -/

section Chunk

variable {c : Command} (hc : signCommand i c.payload = .ok c) (last : Bytes) (rest : List Bytes)

include hc

theorem signChunks_of_refusal {e : Error}
    (h : refusal? ((perform timing c s).1.map Response.status) = some e) :
    signChunks timing i last (c.payload :: rest) s = .error e (perform timing c s).2 := by
  have hrun := run_eq_perform timing c s
  rw [signChunks, hc, bind_ok (attempt_ok Error.codec c s)]
  cases houtcome : (perform timing c s).1 with
  | error e' =>
      -- The exchange failed, and signing fails with the same error.
      rw [houtcome] at h hrun
      cases h
      exact bind_error hrun
  | ok response =>
      rw [houtcome] at h hrun
      -- There is a response, so it is its status word that stops signing.
      have hstatus : response.status ≠ .success := by
        intro hsuccess
        simp [refusal?, Except.map, hsuccess] at h
      have hcause : Error.status response.status = e := by
        simpa [refusal?, Except.map, hstatus] using h
      rw [bind_ok hrun, if_neg (by simpa [Status.isSuccess] using hstatus), ← hcause]
      rfl

theorem signChunks_of_accepted
    (h : refusal? ((perform timing c s).1.map Response.status) = none) :
    ∃ response, (perform timing c s).1 = .ok response ∧
      signChunks timing i last (c.payload :: rest) s
        = signChunks timing i response.payload rest (perform timing c s).2 := by
  have hrun := run_eq_perform timing c s
  cases houtcome : (perform timing c s).1 with
  | error e =>
      rw [houtcome] at h
      cases h
  | ok response =>
      rw [houtcome] at h hrun
      have hstatus : response.status = .success := by
        by_contra hne
        simp [refusal?, Except.map, hne] at h
      refine ⟨response, rfl, ?_⟩
      rw [signChunks, hc, bind_ok (attempt_ok Error.codec c s), bind_ok hrun,
        if_pos (by simpa [Status.isSuccess] using hstatus)]

end Chunk

/-! ## All commands -/

section Chunks

variable {commands : List Command}
  (hcommands : ∀ c ∈ commands, signCommand i c.payload = .ok c) (last : Bytes)

include hcommands

theorem signChunks_stops {k : Nat} {e : Error}
    (h : FirstRefusal (outcomes s (commands.map fun c => (timing, c))) k e) :
    signChunks timing i last (commands.map Command.payload) s
      = .error e (after s ((commands.map fun c => (timing, c)).take (k + 1))) := by
  -- The exchange that signing stops at is counted from the command that comes next.
  induction commands generalizing s last k with
  | nil => cases h.1
  | cons c rest ih =>
      have hc := hcommands c List.mem_cons_self
      have hlater : ∀ c ∈ rest, signCommand i c.payload = .ok c := by
        intro c' hmem
        exact hcommands c' (List.mem_cons_of_mem c hmem)
      rcases h with ⟨hk, hearlier⟩
      cases k with
      | zero =>
          have hrefused : refusal? ((perform timing c s).1.map Response.status) = some e :=
            Option.some.inj hk
          exact signChunks_of_refusal hc last _ hrefused
      | succ k =>
          -- The first exchange is not the one that signing stops at, so the loop goes on.
          have haccepted : refusal? ((perform timing c s).1.map Response.status) = none :=
            Option.some.inj (hearlier 0 (Nat.succ_pos k))
          rcases signChunks_of_accepted hc last (rest.map Command.payload) haccepted with
            ⟨response, _, hstep⟩
          rw [List.map_cons, hstep]
          refine ih hlater response.payload ⟨hk, ?_⟩
          intro j hj
          exact hearlier (j + 1) (Nat.succ_lt_succ hj)

theorem signChunks_finishes (hne : commands ≠ [])
    (hall : ∀ refusal ∈ refusals (outcomes s (commands.map fun c => (timing, c))),
      refusal = none) :
    ∃ response,
      (outcomes s (commands.map fun c => (timing, c))).getLast? = some (.ok response) ∧
      signChunks timing i last (commands.map Command.payload) s
        = .ok response.payload (after s (commands.map fun c => (timing, c))) := by
  induction commands generalizing s last with
  | nil => exact absurd rfl hne
  | cons c rest ih =>
      have hc := hcommands c List.mem_cons_self
      have hlater : ∀ c ∈ rest, signCommand i c.payload = .ok c := by
        intro c' hmem
        exact hcommands c' (List.mem_cons_of_mem c hmem)
      have haccepted : refusal? ((perform timing c s).1.map Response.status) = none :=
        hall _ List.mem_cons_self
      rcases signChunks_of_accepted hc last (rest.map Command.payload) haccepted with
        ⟨response, houtcome, hstep⟩
      simp only [List.map_cons, outcomes_cons, after_cons, List.getLast?_cons, hstep]
      cases rest with
      | nil =>
          -- No command follows, so this response is the last.
          exact ⟨response, congrArg some houtcome, rfl⟩
      | cons c' more =>
          have hrest : ∀ refusal ∈ refusals (outcomes (perform timing c s).2
              ((c' :: more).map fun c => (timing, c))), refusal = none := by
            intro refusal hmem
            exact hall refusal (List.mem_cons_of_mem _ hmem)
          rcases ih hlater response.payload (List.cons_ne_nil c' more) hrest with
            ⟨response', hlast, hfinish⟩
          refine ⟨response', ?_, hfinish⟩
          rw [hlast]
          rfl

end Chunks

/-! ## The signature -/

/-- The exchanges that carry a challenge. -/
def signRequests (timing : Timing) (i : Identity) (challenge : Bytes) :
    List (Timing × Command) :=
  (signCommands i challenge).map fun c => (timing, c)

theorem outcomes_signRequests {s : Simulator} (h : Ready s)
    (hdeadline : timing.readTimeout ≠ .zero) :
    outcomes s (signRequests timing i challenge)
      = (signCommands i challenge).mapIdx fun k _ => answered timing.readTimeout s.script[k]? := by
  have hdeadlines : ∀ request ∈ signRequests timing i challenge,
      request.1.readTimeout ≠ .zero := by
    intro request hmem
    rcases List.mem_map.1 hmem with ⟨c, _, rfl⟩
    exact hdeadline
  rw [outcomes, outcomes_simulated h hdeadlines, signRequests]
  -- All of the exchanges have the same deadline.
  apply List.ext_getElem?
  intro k
  simp [List.getElem?_mapIdx, Function.comp_def]

theorem sign_of_refused {k : Nat} {e : Error}
    (h : FirstRefusal (outcomes s (signRequests timing i challenge)) k e) :
    sign timing i challenge s
      = .error e (after s ((signRequests timing i challenge).take (k + 1))) := by
  have hstop := signChunks_stops (fun c hmem => signCommand_of_mem hmem) [] h
  rw [map_payload_signCommands] at hstop
  exact bind_error hstop

theorem sign_of_accepted
    (hall : ∀ refusal ∈ refusals (outcomes s (signRequests timing i challenge)),
      refusal = none) :
    ∃ response, (outcomes s (signRequests timing i challenge)).getLast? = some (.ok response) ∧
      sign timing i challenge s
        = settled ((Signature.ofResponse i.keyType.sshName response.payload).mapError .codec)
            (after s (signRequests timing i challenge)) := by
  rcases signChunks_finishes (fun c hmem => signCommand_of_mem hmem) []
      (signCommands_ne_nil i challenge) hall with
    ⟨response, hlast, hfinish⟩
  rw [map_payload_signCommands] at hfinish
  refine ⟨response, hlast, ?_⟩
  rw [sign, bind_ok hfinish]
  exact attempt_eq Error.codec _ _

/-- A signature is what some response tells. -/
theorem exists_payload_of_sign {signature : Signature} {s' : σ}
    (h : sign timing i challenge s = .ok signature s') :
    ∃ payload, Signature.ofResponse i.keyType.sshName payload = .ok signature := by
  rcases exists_of_bind_ok h with ⟨payload, between, _, htold⟩
  refine ⟨payload, ?_⟩
  rw [attempt_eq] at htold
  cases hresponse : Signature.ofResponse i.keyType.sshName payload with
  | error e =>
      rw [hresponse] at htold
      cases htold
  | ok told =>
      rw [hresponse] at htold
      cases htold
      rfl

/-- The commands of a challenge that a token is sent, which are the first ones.  Whether they are
all of them is told by the responses to the commands before the last. -/
structure SentFor (timing : Timing) (i : Identity) (challenge : Bytes) (s : σ)
    (sent : List Command) : Prop where
  some_sent : sent ≠ []
  front : sent <+: signCommands i challenge
  all_iff : sent = signCommands i challenge ↔
    ∀ k, k + 1 < (signCommands i challenge).length → ∃ payload,
      (outcomes s (signRequests timing i challenge))[k]? = some (.ok ⟨payload, .success⟩)

theorem sentFor_of_accepted
    (hall : ∀ refusal ∈ refusals (outcomes s (signRequests timing i challenge)),
      refusal = none) :
    SentFor timing i challenge s (signCommands i challenge) where
  some_sent := signCommands_ne_nil i challenge
  front := List.prefix_rfl
  all_iff := by
    refine ⟨?_, fun _ => rfl⟩
    intro _ k hk
    apply getElem?_refusals_eq_none_iff.1
    have hinside : k < (refusals (outcomes s (signRequests timing i challenge))).length := by
      rw [refusals, List.length_map, length_outcomes, signRequests, List.length_map]
      exact Nat.lt_of_succ_lt hk
    rw [List.getElem?_eq_getElem hinside]
    exact congrArg some (hall _ (List.getElem_mem hinside))

theorem sentFor_of_refused {k : Nat} {e : Error}
    (h : FirstRefusal (outcomes s (signRequests timing i challenge)) k e) :
    SentFor timing i challenge s ((signCommands i challenge).take (k + 1)) where
  some_sent := by
    intro hnil
    rcases List.take_eq_nil_iff.1 hnil with hzero | hnone
    · exact absurd hzero (Nat.succ_ne_zero k)
    · exact signCommands_ne_nil i challenge hnone
  front := List.take_prefix _ _
  all_iff := by
    rw [List.take_eq_self_iff]
    constructor
    · -- The refusal came last, so what came before it was accepted.
      intro hlast j hj
      apply getElem?_refusals_eq_none_iff.1
      exact h.2 j (Nat.lt_of_succ_lt_succ (Nat.lt_of_lt_of_le hj hlast))
    · intro haccepted
      by_contra hmore
      have hnone := getElem?_refusals_eq_none_iff.2 (haccepted k (Nat.lt_of_not_le hmore))
      rw [h.1] at hnone
      cases hnone

theorem exists_sentFor (timing : Timing) (i : Identity) (challenge : Bytes) (s : σ) :
    ∃ sent outcome, SentFor timing i challenge s sent ∧
      sign timing i challenge s = settled outcome (after s (sent.map fun c => (timing, c))) := by
  rcases exists_firstRefusal (outcomes s (signRequests timing i challenge)) with
    hall | ⟨k, e, hfirst⟩
  · rcases sign_of_accepted hall with ⟨response, _, hsign⟩
    exact ⟨_, _, sentFor_of_accepted hall, hsign⟩
  · refine ⟨_, .error e, sentFor_of_refused hfirst, ?_⟩
    rw [List.map_take]
    exact sign_of_refused hfirst

/-- At least one command of a challenge is sent, and those that are sent are the first ones. -/
theorem sign_sends (timing : Timing) (i : Identity) (challenge : Bytes) (s : σ) :
    ∃ n outcome, 0 < n ∧ n ≤ (signCommands i challenge).length ∧
      sign timing i challenge s
        = settled outcome (after s (((signCommands i challenge).take n).map fun c => (timing, c))) := by
  rcases exists_sentFor timing i challenge s with ⟨sent, outcome, hsent, hsign⟩
  have htake : sent = (signCommands i challenge).take sent.length :=
    List.prefix_iff_eq_take.1 hsent.front
  refine ⟨sent.length, outcome, List.length_pos_iff.2 hsent.some_sent, hsent.front.length_le, ?_⟩
  rw [← htake]
  exact hsign

/-- Two tokens whose exchanges end with the same status words, and the last of them with the same
payload, bring about the same signature or the same error. -/
theorem sign_of_same_statuses {other : σ}
    (hstatuses : (outcomes other (signRequests timing i challenge)).map (Except.map Response.status)
      = (outcomes s (signRequests timing i challenge)).map (Except.map Response.status))
    (hlast : (outcomes other (signRequests timing i challenge)).getLast?.map
        (Except.map Response.payload)
      = (outcomes s (signRequests timing i challenge)).getLast?.map
        (Except.map Response.payload)) :
    ∃ outcome left left', sign timing i challenge s = settled outcome left ∧
      sign timing i challenge other = settled outcome left' := by
  have hrefusals := refusals_congr hstatuses
  rcases exists_firstRefusal (outcomes s (signRequests timing i challenge)) with
    hall | ⟨k, e, hfirst⟩
  · -- The last responses may differ in nothing that the signature is made of.
    have hall' := hall
    rw [← hrefusals] at hall'
    rcases sign_of_accepted hall with ⟨response, hresponse, hsign⟩
    rcases sign_of_accepted hall' with ⟨response', hresponse', hsign'⟩
    have hpayload : response'.payload = response.payload := by
      rw [hresponse, hresponse'] at hlast
      injection hlast with hlast
      injection hlast
    rw [hpayload] at hsign'
    exact ⟨_, _, _, hsign, hsign'⟩
  · have hfirst' := hfirst
    rw [FirstRefusal, ← hrefusals] at hfirst'
    exact ⟨.error e, _, _, sign_of_refused hfirst, sign_of_refused hfirst'⟩

end Transports

/-- A challenge that fits behind the path takes one command, and is signed by what this is
answered with. -/
theorem sign_of_short {timing : Timing} {i : Identity} {challenge payload : Bytes} {s : Simulator}
    (hready : Ready s) (hdeadline : timing.readTimeout ≠ .zero) (hshort : challenge.length ≤ 234)
    (hanswered : answered timing.readTimeout s.script[0]? = .ok ⟨payload, .success⟩) :
    sign timing i challenge s
      = settled ((Signature.ofResponse i.keyType.sshName payload).mapError .codec)
          (after s (signRequests timing i challenge)) := by
  have hcount : (signCommands i challenge).length = 1 := by
    rw [(carries_signCommands i challenge).count, if_pos hshort]
  have houtcomes : outcomes s (signRequests timing i challenge) = [.ok ⟨payload, .success⟩] := by
    rcases List.length_eq_one_iff.1 hcount with ⟨c, hc⟩
    rw [outcomes_signRequests hready hdeadline, hc, ← hanswered]
    rfl
  have haccepted : ∀ outcome ∈ outcomes s (signRequests timing i challenge),
      ∃ payload, outcome = .ok ⟨payload, .success⟩ := by
    rw [houtcomes]
    simp
  rcases sign_of_accepted (refusals_of_success haccepted) with ⟨response, hlast, hsign⟩
  rw [houtcomes] at hlast
  cases hlast
  exact hsign

/-! ## What a token is sent -/

/-- A challenge goes to the token behind the path of its key, in as few commands as can carry it,
and a token that answers every one of them with success is sent them all. -/
theorem sign_carries (i : Identity) (challenge : Bytes) :
    (DerivationPath.ofIdentity i .signing).toBytes.length = 21 ∧
    Carries (signCommands i challenge) (DerivationPath.ofIdentity i .signing).toBytes challenge ∧
    (∀ (σ : Type) [Transport σ] (timing : Timing) (s : σ),
      (∀ outcome ∈ outcomes s (signRequests timing i challenge),
        ∃ payload, outcome = .ok ⟨payload, .success⟩) →
      ∃ outcome, sign timing i challenge s
        = settled outcome (after s (signRequests timing i challenge))) ∧
    ∀ (timing : Timing) (s : Simulator),
      (∀ outcome ∈ outcomes s (signRequests timing i challenge),
        ∃ payload, outcome = .ok ⟨payload, .success⟩) →
      ∃ outcome token, sign timing i challenge s = settled outcome token ∧
        Sent timing s (signCommands i challenge) token := by
  have hsent : ∀ (σ : Type) [Transport σ] (timing : Timing) (s : σ),
      (∀ outcome ∈ outcomes s (signRequests timing i challenge),
        ∃ payload, outcome = .ok ⟨payload, .success⟩) →
      ∃ outcome, sign timing i challenge s
        = settled outcome (after s (signRequests timing i challenge)) := by
    intro σ _ timing s hsuccess
    rcases sign_of_accepted (refusals_of_success hsuccess) with ⟨response, _, hsign⟩
    exact ⟨_, hsign⟩
  refine ⟨length_signPath i, carries_signCommands i challenge, hsent, ?_⟩
  intro timing s hsuccess
  rcases hsent Simulator timing s hsuccess with ⟨outcome, hsign⟩
  exact ⟨outcome, _, hsign, sent_after timing s (signCommands i challenge)⟩

/-- Three hundred bytes take two commands. -/
theorem sign_carries_two :
    let token : Simulator := { Simulator.fresh with
      script := List.replicate 2 (.raw (Frame.wire [0x90, 0x00])) }
    let i := Identity.ofHost "example"
    let challenge : Bytes := List.replicate 300 0x07
    (∀ outcome ∈ outcomes token (signRequests Timing.default i challenge),
      ∃ payload, outcome = .ok ⟨payload, .success⟩) ∧
    ∃ outcome left, sign Timing.default i challenge token = settled outcome left ∧
      left.commands.length = 2 := by
  intro token i challenge
  have hready : Ready token := ⟨rfl, rfl⟩
  have hcount : (signCommands i challenge).length = 2 := by
    rw [(carries_signCommands i challenge).count, List.length_replicate]
    decide
  have hsuccess : ∀ outcome ∈ outcomes token (signRequests Timing.default i challenge),
      ∃ payload, outcome = .ok ⟨payload, .success⟩ := by
    intro outcome hmem
    rw [outcomes_signRequests hready (by decide)] at hmem
    rcases List.mem_mapIdx.1 hmem with ⟨k, hk, rfl⟩
    have hentry : token.script[k]? = some (.raw (Frame.wire [0x90, 0x00])) := by
      rw [hcount] at hk
      exact List.getElem?_replicate_of_lt hk
    refine ⟨[], ?_⟩
    rw [hentry, answered_wire _ (by decide)]
    rfl
  rcases (sign_carries i challenge).2.2.2 Timing.default token hsuccess with
    ⟨outcome, left, hsign, hsent⟩
  refine ⟨hsuccess, outcome, left, hsign, ?_⟩
  have hlog := (hsent.log hready).2.2
  rw [hlog]
  simpa [token, Simulator.fresh] using hcount

/-! ## Where signing stops -/

/-- Signing stops at the first of the exchanges of a challenge that does not end with success,
and with what this exchange came to; if there is none, the last response alone tells the
signature. -/
theorem sign_simulated (timing : Timing) (i : Identity) (challenge : Bytes) (s : Simulator) :
    let commands := signCommands i challenge
    let results := outcomes s (signRequests timing i challenge)
    results.length = commands.length ∧
    (∀ k e, FirstRefusal results k e → ∃ token,
      sign timing i challenge s = .error e token ∧
      Sent timing s (commands.take (k + 1)) token) ∧
    ((∀ k e, ¬ FirstRefusal results k e) → ∃ response token,
      results.getLast? = some (.ok response) ∧
      sign timing i challenge s
        = settled ((Signature.ofResponse i.keyType.sshName response.payload).mapError .codec)
            token ∧
      Sent timing s commands token) ∧
    (Ready s → timing.readTimeout ≠ .zero →
      results = commands.mapIdx fun k _ => answered timing.readTimeout s.script[k]?) ∧
    ∀ other : Simulator,
      (outcomes other (signRequests timing i challenge)).map (Except.map Response.status)
        = results.map (Except.map Response.status) →
      (outcomes other (signRequests timing i challenge)).getLast?.map (Except.map Response.payload)
        = results.getLast?.map (Except.map Response.payload) →
      ∃ outcome left left', sign timing i challenge s = settled outcome left ∧
        sign timing i challenge other = settled outcome left' := by
  intro commands results
  refine ⟨?_, ?_, ?_, ?_, ?_⟩
  · rw [length_outcomes, signRequests, List.length_map]
  · intro k e hfirst
    refine ⟨_, sign_of_refused hfirst, ?_⟩
    rw [signRequests, ← List.map_take]
    exact sent_after timing s (commands.take (k + 1))
  · intro hnone
    -- If there is no first refusal, there is none at all.
    rcases exists_firstRefusal results with hall | ⟨k, e, hfirst⟩
    · rcases sign_of_accepted hall with ⟨response, hlast, hsign⟩
      exact ⟨response, _, hlast, hsign, sent_after timing s commands⟩
    · exact absurd hfirst (hnone k e)
  · intro hready hdeadline
    exact outcomes_signRequests hready hdeadline
  · intro other hstatuses hlast
    exact sign_of_same_statuses hstatuses hlast

/-- Of three commands the second is refused, so the third is not sent and its reply stays. -/
theorem sign_simulated_refused :
    let token : Simulator := { Simulator.fresh with
      script := [.raw (Frame.wire [0x90, 0x00]), .raw (Frame.wire [0x69, 0x85]), .silence] }
    let i := Identity.ofHost "example"
    let challenge : Bytes := List.replicate 600 0x07
    let denied : Error := .status ⟨0x6985⟩
    FirstRefusal (outcomes token (signRequests Timing.default i challenge)) 1 denied ∧
    ∃ left, sign Timing.default i challenge token = .error denied left ∧
      left.commands.length = 2 ∧ left.script = [.silence] := by
  intro token i challenge denied
  have hready : Ready token := ⟨rfl, rfl⟩
  have hcount : (signCommands i challenge).length = 3 := by
    rw [(carries_signCommands i challenge).count, List.length_replicate]
    decide
  have haccepted : answered Timing.default.readTimeout token.script[0]? = .ok ⟨[], .success⟩ :=
    answered_wire _ (by decide)
  have hdenied : answered Timing.default.readTimeout token.script[1]? = .ok ⟨[], ⟨0x6985⟩⟩ :=
    answered_wire _ (by decide)
  have hrefusals : ∀ k < 3,
      (refusals (outcomes token (signRequests Timing.default i challenge)))[k]?
        = some (refusal? ((answered Timing.default.readTimeout token.script[k]?).map
            Response.status)) := by
    intro k hk
    rw [← hcount] at hk
    rw [refusals, List.getElem?_map, outcomes_signRequests hready (by decide),
      List.getElem?_mapIdx, List.getElem?_eq_getElem hk]
    rfl
  have hfirst :
      FirstRefusal (outcomes token (signRequests Timing.default i challenge)) 1 denied := by
    constructor
    · rw [hrefusals 1 (by decide), hdenied]
      rfl
    · intro j hj
      have hj' : j = 0 := Nat.lt_one_iff.1 hj
      rw [hj', hrefusals 0 (by decide), haccepted]
      rfl
  rcases (sign_simulated Timing.default i challenge token).2.1 1 denied hfirst with
    ⟨left, hsign, hsent⟩
  rcases hsent.log hready with ⟨_, hscript, hlog⟩
  have htwo : ((signCommands i challenge).take 2).length = 2 := by
    rw [List.length_take, hcount]
    rfl
  refine ⟨hfirst, left, hsign, ?_, ?_⟩
  · rw [hlog, List.length_append, List.length_map, htwo]
    rfl
  · rw [hscript, htwo]
    rfl

end Token

end TokenAgent
