import TokenAgent.Proofs.Exchange.Pairing

/-!
# Exchanges in sequence

`Exchange.outcomes` and `Exchange.after` are what exchanges come to that are made one after the
other, and the state that they leave.

However an exchange with a simulated token ends, and whatever its deadline is, a token that was
ready has received the command and taken one entry of its script, and is ready for the next one
(`Exchange.perform_ready`).  A token that was not ready takes one entry at most
(`Exchange.perform_script`).  Hence what any number of exchanges do to a token
(`Exchange.sent_after`).
-/

namespace TokenAgent

namespace Exchange

open TokenAgent.Frame Running

section Trace

variable {σ : Type} [Transport σ] {s : σ} {requests : List (Timing × Command)}

theorem run_eq_perform (timing : Timing) (command : Command) (s : σ) :
    run timing command s
      = settled (perform timing command s).1 (perform timing command s).2 := by
  rw [perform]
  cases run timing command s with
  | ok response s' => rfl
  | error e s' => rfl

/-- What exchanges come to, made one after the other. -/
def outcomes (s : σ) (requests : List (Timing × Command)) : List (Except Error Response) :=
  (trace s requests).map Prod.fst

/-- The state that exchanges leave. -/
def after (s : σ) (requests : List (Timing × Command)) : σ :=
  requests.foldl (fun s request => (perform request.1 request.2 s).2) s

theorem outcomes_cons (request : Timing × Command) :
    outcomes s (request :: requests) = (perform request.1 request.2 s).1
      :: outcomes (perform request.1 request.2 s).2 requests := rfl

theorem after_cons (request : Timing × Command) :
    after s (request :: requests) = after (perform request.1 request.2 s).2 requests := rfl

theorem length_outcomes : (outcomes s requests).length = requests.length := by
  induction requests generalizing s with
  | nil => rfl
  | cons request rest ih => rw [outcomes_cons, List.length_cons, ih, List.length_cons]

end Trace

/-! ## Simulated tokens -/

variable {s : Simulator}

/-- What happens after the command was sent has no part in the script, nor in the commands. -/
theorem perform_of_send (timing : Timing) {command : Command} {s s' : Simulator}
    (hsend : send command s = .ok () s') :
    ∃ outcome left, perform timing command s = (outcome, { s' with pending := left }) := by
  rcases exists_receive timing.readTimeout s' with ⟨message, s'', hreceive, hreads⟩
  rcases pending_of_readsTo hreads with ⟨left, rfl⟩
  exact ⟨_, left, perform_of_run (run_of_receive hsend hreceive)⟩

theorem perform_ready (h : Ready s) (timing : Timing) (command : Command) :
    Ready (perform timing command s).2 ∧
      (perform timing command s).2.script = s.script.tail ∧
      (perform timing command s).2.commands = s.commands ++ [command.toBytes] := by
  rcases perform_of_send timing (send_simulated h.1 h.2 command) with
    ⟨outcome, left, hperform⟩
  rw [hperform, Simulator.receive_eq]
  exact ⟨⟨h.1, rfl⟩, rfl, rfl⟩

theorem after_ready (h : Ready s) (requests : List (Timing × Command)) :
    Ready (after s requests) ∧
      (after s requests).script = s.script.drop requests.length ∧
      (after s requests).commands = s.commands ++ requests.map fun r => r.2.toBytes := by
  induction requests generalizing s with
  | nil => simpa [after] using h
  | cons request rest ih =>
      rcases perform_ready h request.1 request.2 with ⟨hready, hscript, hcommands⟩
      rcases ih hready with ⟨hready', hscript', hcommands'⟩
      refine ⟨hready', ?_, ?_⟩
      · rw [hscript, List.drop_tail] at hscript'
        exact hscript'
      · rw [hcommands, List.append_assoc] at hcommands'
        exact hcommands'

/-! ## Tokens in any state

A token may hold part of a command already, and then it can take a command for another one.  It
still answers no more than once. -/

theorem offer_cases (p : Packet) (s : Simulator) :
    (∃ outcome buffer, offer p s = settled outcome { s with incoming := buffer }) ∨
      ∃ outcome command, offer p s = settled outcome (s.receive command) := by
  -- An offer leaves what its write leaves, also when fewer bytes were taken than there are.
  have hoffer : ∀ {outcome s'}, Simulator.write p.toReport s = settled outcome s' →
      ∃ outcome', offer p s = settled outcome' s' := by
    intro outcome s' hwrite
    cases outcome with
    | error fault =>
        refine ⟨.error (.transport (.writeFailed fault)), ?_⟩
        exact bind_error (adaptExcept_error hwrite)
    | ok accepted =>
        have hadapted : ((Transport.write p.toReport).adaptExcept
            fun fault => Error.transport (.writeFailed fault)) s = .ok accepted s' :=
          adaptExcept_ok hwrite
        rw [offer, bind_ok hadapted]
        split
        · exact ⟨.ok (), rfl⟩
        · exact ⟨.error _, rfl⟩
  rcases Simulator.write_cases p.toReport s with ⟨_, buffer, hwrite⟩ | ⟨_, command, hwrite⟩
  · rcases hoffer hwrite with ⟨outcome, houtcome⟩
    exact Or.inl ⟨outcome, buffer, houtcome⟩
  · rcases hoffer hwrite with ⟨outcome, houtcome⟩
    exact Or.inr ⟨outcome, command, houtcome⟩

theorem forM_offer_script {ps : List Packet} (hlater : ∀ p ∈ ps.tail, p.sequence ≠ 0)
    (s : Simulator) :
    ∃ outcome s', ps.forM offer s = settled outcome s' ∧
      (s'.script = s.script ∨ s'.script = s.script.tail) := by
  induction ps generalizing s with
  | nil => exact ⟨.ok (), s, rfl, Or.inl rfl⟩
  | cons p rest ih =>
      have hrest : ∀ q ∈ rest.tail, q.sequence ≠ 0 := by
        intro q hmem
        exact hlater q (List.mem_of_mem_tail hmem)
      rcases offer_cases p s with ⟨outcome, buffer, hoffer⟩ | ⟨outcome, command, hoffer⟩
      · cases outcome with
        | error e => exact ⟨.error e, _, bind_error hoffer, Or.inl rfl⟩
        | ok =>
            rcases ih hrest { s with incoming := buffer } with ⟨outcome, s', hforM, hscript⟩
            exact ⟨outcome, s', (bind_ok hoffer).trans hforM, hscript⟩
      · -- This packet made up a command, which took its entry and left the buffer empty.
        have hreceived := Simulator.receive_eq s command
        have hscript : (s.receive command).script = s.script.tail := by
          rw [hreceived]
        cases outcome with
        | error e => exact ⟨.error e, _, bind_error hoffer, Or.inr hscript⟩
        | ok =>
            cases rest with
            | nil => exact ⟨.ok (), _, bind_ok hoffer, Or.inr hscript⟩
            | cons q more =>
                -- The packets that are left start no command, so nothing more is answered.
                have hq : q.sequence ≠ 0 := hlater q List.mem_cons_self
                have hidle : (s.receive command).incoming = .empty := by
                  rw [hreceived]
                rcases Simulator.write_later hidle hq with ⟨fault, buffer, hwrite⟩
                have hstop : (q :: more).forM offer (s.receive command)
                    = .error (.transport (.writeFailed fault))
                        { s.receive command with incoming := buffer } :=
                  bind_error (bind_error (adaptExcept_error hwrite))
                exact ⟨.error _, _, (bind_ok hoffer).trans hstop, Or.inr hscript⟩

theorem perform_script (timing : Timing) (command : Command) (s : Simulator) :
    (perform timing command s).2.script = s.script ∨
      (perform timing command s).2.script = s.script.tail := by
  have hfits := command.length_toBytes_le
  have hpack : pack command.toBytes = .ok (packets command.toBytes) := by
    rw [pack, if_pos hfits]
  have hsend : send command s = (packets command.toBytes).forM offer s := by
    rw [send, hpack, bind_ok (attempt_eq Error.framing _ s)]
  rcases forM_offer_script (sequence_ne_zero hfits) s with ⟨outcome, s', hforM, hscript⟩
  rw [← hsend] at hforM
  cases outcome with
  | error e =>
      have hrun : run timing command s = settled (.error e) s' := bind_error hforM
      rw [perform_of_run hrun]
      exact hscript
  | ok =>
      rcases perform_of_send timing hforM with ⟨outcome, left, hperform⟩
      rw [hperform]
      exact hscript

/-- Exchanges take no more entries of the script than there are commands. -/
theorem after_script (s : Simulator) (requests : List (Timing × Command)) :
    s.script.drop requests.length <:+ (after s requests).script := by
  induction requests generalizing s with
  | nil => exact List.suffix_refl s.script
  | cons request rest ih =>
      have hrest := ih (perform request.1 request.2 s).2
      rw [← after_cons] at hrest
      rw [List.length_cons]
      rcases perform_script request.1 request.2 s with hsame | htail
      · -- No entry was taken, so one more than the others can have taken is left.
        rw [hsame] at hrest
        refine List.IsSuffix.trans ?_ hrest
        exact List.drop_suffix_drop_left s.script (Nat.le_succ rest.length)
      · rw [htail, List.drop_tail] at hrest
        exact hrest

/-! ## What a token has been sent -/

/-- A token was sent commands, each in an exchange of its own, and nothing else. -/
structure Sent (timing : Timing) (s : Simulator) (commands : List Command)
    (token : Simulator) : Prop where
  state : token = after s (commands.map fun c => (timing, c))
  /-- The entries behind those that the commands can have taken are still there. -/
  script : s.script.drop commands.length <:+ token.script
  log : Ready s → Ready token ∧ token.script = s.script.drop commands.length ∧
    token.commands = s.commands ++ commands.map Command.toBytes

theorem sent_after (timing : Timing) (s : Simulator) (commands : List Command) :
    Sent timing s commands (after s (commands.map fun c => (timing, c))) where
  state := rfl
  script := by
    simpa using after_script s (commands.map fun c => (timing, c))
  log := by
    intro hready
    rcases after_ready hready (commands.map fun c => (timing, c)) with
      ⟨hready', hscript, hcommands⟩
    refine ⟨hready', ?_, ?_⟩
    · simpa using hscript
    · rw [hcommands, List.map_map]
      rfl

end Exchange

end TokenAgent
