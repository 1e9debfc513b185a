import TokenAgent.Proofs.Exchange.Simulated

/-!
# Requests and their responses

Exchanges one after the other, failed ones included: `Exchange.trace` gives the outcome of each
and the state of the transport after it.  With a simulated token every response belongs to the
request that it is taken for (`Exchange.trace_simulated`): the `k`-th exchange is told by the
`k`-th entry of the script and by nothing else, neither by how the token cuts its output, nor by
output that was never read, nor by what became of the exchanges before.
-/

namespace TokenAgent

namespace Exchange

open Running

section Trace

variable {σ : Type} [Transport σ]

/-- What an exchange comes to, and the state of the transport that it leaves. -/
def perform (timing : Timing) (command : Command) (s : σ) : Except Error Response × σ :=
  match run timing command s with
  | .ok response s => (.ok response, s)
  | .error e s => (.error e, s)

/-- Exchanges one after the other, whatever becomes of them. -/
def trace : σ → List (Timing × Command) → List (Except Error Response × σ)
  | _, [] => []
  | s, (timing, command) :: rest =>
      perform timing command s :: trace (perform timing command s).2 rest

theorem perform_of_run {timing : Timing} {command : Command} {s s' : σ}
    {outcome : Except Error Response} (h : run timing command s = settled outcome s') :
    perform timing command s = (outcome, s') := by
  rw [perform, h]
  cases outcome with
  | error e => rfl
  | ok response => rfl

end Trace

variable {s : Simulator} {requests : List (Timing × Command)}

/-- A token on which exchanges can be told by its script. -/
def Ready (s : Simulator) : Prop :=
  s.failWrites = false ∧ s.incoming = .empty

theorem perform_simulated (h : Ready s) {timing : Timing} (hdeadline : timing.readTimeout ≠ .zero)
    (command : Command) :
    ∃ s' : Simulator, perform timing command s = (answered timing.readTimeout s.script.head?, s') ∧
      Ready s' ∧ s'.script = s.script.tail ∧ s'.commands = s.commands ++ [command.toBytes] := by
  rcases run_simulated h.1 h.2 hdeadline command with ⟨left, hrun⟩
  exact ⟨_, perform_of_run hrun, h, rfl, rfl⟩

theorem outcomes_simulated (h : Ready s)
    (hdeadlines : ∀ request ∈ requests, request.1.readTimeout ≠ .zero) :
    (trace s requests).map Prod.fst
      = requests.mapIdx fun k request => answered request.1.readTimeout s.script[k]? := by
  -- The token is ready again after each exchange, and its script is one entry shorter.
  induction requests generalizing s with
  | nil => rfl
  | cons request rest ih =>
      rcases request with ⟨timing, command⟩
      rcases perform_simulated h (hdeadlines _ List.mem_cons_self) command with
        ⟨s', hperform, hready, hscript, _⟩
      have hrest := ih hready fun request hmem => hdeadlines _ (List.mem_cons_of_mem _ hmem)
      simp only [trace, hperform, List.map_cons, hrest, List.mapIdx_cons, hscript,
        List.getElem?_tail, List.head?_eq_getElem?]

/-- The state after the exchanges up to number `k`. -/
theorem states_simulated (h : Ready s)
    (hdeadlines : ∀ request ∈ requests, request.1.readTimeout ≠ .zero) {k : Nat}
    (hk : k < requests.length) :
    ∃ after : Simulator, ((trace s requests).map Prod.snd)[k]? = some after ∧ Ready after ∧
      after.script = s.script.drop (k + 1) ∧
      after.commands = s.commands ++ (requests.take (k + 1)).map fun r => r.2.toBytes := by
  induction requests generalizing s k with
  | nil => exact absurd hk (Nat.not_lt_zero k)
  | cons request rest ih =>
      rcases request with ⟨timing, command⟩
      rcases perform_simulated h (hdeadlines _ List.mem_cons_self) command with
        ⟨s', hperform, hready, hscript, hcommands⟩
      have hlater : ∀ request ∈ rest, request.1.readTimeout ≠ .zero := by
        intro request hmem
        exact hdeadlines request (List.mem_cons_of_mem _ hmem)
      cases k with
      | zero =>
          refine ⟨s', ?_, hready, ?_, ?_⟩
          · simp [trace, hperform]
          · simp [hscript]
          · simp [hcommands]
      | succ k =>
          rcases ih hready hlater (Nat.lt_of_succ_lt_succ hk) with
            ⟨after, hafter, hready', hscript', hcommands'⟩
          refine ⟨after, ?_, hready', ?_, ?_⟩
          · simpa [trace, hperform] using hafter
          · simpa [hscript] using hscript'
          · simpa [hcommands] using hcommands'

/-- Every exchange with a simulated token takes the next entry of the script, if there is one,
and comes to what this entry says; the token has then received the command and waits for
nothing.  What the token holds beside its script has no part in the outcomes. -/
theorem trace_simulated (s : Simulator) (requests : List (Timing × Command))
    (hworks : s.failWrites = false) (hidle : s.incoming = .empty)
    (hdeadlines : ∀ request ∈ requests, request.1.readTimeout ≠ .zero) :
    (trace s requests).map Prod.fst
      = requests.mapIdx (fun k request => answered request.1.readTimeout s.script[k]?) ∧
    (∀ k < requests.length, ∃ after : Simulator,
      ((trace s requests).map Prod.snd)[k]? = some after ∧
      after.incoming = .empty ∧
      after.script = s.script.drop (k + 1) ∧
      after.commands = s.commands ++ (requests.take (k + 1)).map fun r => r.2.toBytes) ∧
    ∀ other : Simulator, other.failWrites = false → other.incoming = .empty →
      other.script = s.script →
        (trace other requests).map Prod.fst = (trace s requests).map Prod.fst := by
  have hready : Ready s := ⟨hworks, hidle⟩
  refine ⟨outcomes_simulated hready hdeadlines, ?_, ?_⟩
  · intro k hk
    rcases states_simulated hready hdeadlines hk with ⟨after, hafter, hready', hscript, hcommands⟩
    exact ⟨after, hafter, hready'.2, hscript, hcommands⟩
  · intro other hworks' hidle' hscript
    rw [outcomes_simulated ⟨hworks', hidle'⟩ hdeadlines, outcomes_simulated hready hdeadlines,
      hscript]

/-- A reply that is too short, a reply that is whole, and none: with old output unread and one
byte handed out at a time, each request gets its own. -/
theorem trace_simulated_three :
    let token : Simulator := { Simulator.fresh with
      script := [.raw (Frame.wire [0x90]), .raw (Frame.wire [0xAA, 0x90, 0x00] ++ [0x07])]
      pending := [[0xFF], [0xFF]]
      chunkSize := 1 }
    let request : Timing × Command :=
      (Timing.default, ⟨0x80, 0x04, 0x00, 0x81, [0x01, 0x02], by decide⟩)
    (token.failWrites = false ∧ token.incoming = .empty ∧
      ∀ r ∈ [request, request, request], r.1.readTimeout ≠ .zero) ∧
    (trace token [request, request, request]).map Prod.fst =
      [.error (.framing (.missingStatus 1)), .ok ⟨[0xAA], .success⟩,
        .error (.transport (.timeout Timing.default.readTimeout))] := by
  intro token request
  have hdeadlines : ∀ r ∈ [request, request, request], r.1.readTimeout ≠ .zero := by
    intro r hmem
    have hr : r = request := by
      simpa using hmem
    rw [hr]
    decide
  have hshort : Frame.assemble (Frame.wire [0x90]) = .ok (.complete [0x90]) := by
    simpa using Frame.assemble_wire (m := [0x90]) (by decide) []
  have hwhole : Frame.assemble (Frame.wire [0xAA, 0x90, 0x00] ++ [0x07])
      = .ok (.complete [0xAA, 0x90, 0x00]) :=
    Frame.assemble_wire (by decide) [0x07]
  refine ⟨⟨rfl, rfl, hdeadlines⟩, ?_⟩
  rw [(trace_simulated token [request, request, request] rfl rfl hdeadlines).1]
  simp only [List.mapIdx_cons, List.mapIdx_nil, token, List.getElem?_cons_zero,
    List.getElem?_cons_succ, List.getElem?_nil, answered, hshort, hwhole]
  rfl

end Exchange

end TokenAgent
