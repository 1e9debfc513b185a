import TokenAgent.Agent.Handler

/-!
# Operations in sequence

Everything that can be done with an agent, as data.  A token may also be told beforehand how to
behave, as a simulated one is; what it is told has a type `ρ`, and the rule by which the state of
the token takes it in is a parameter.

* `Agent.perform` — carry out one operation;
* `Agent.performAll` — carry out several, each on the state that the one before it left.
-/

namespace TokenAgent

namespace Agent

/-- Something to do with an agent whose token takes directions of type `ρ`. -/
inductive Operation (ρ : Type) where
  /-- Answer a message of a client. -/
  | handle (message : Bytes)
  /-- Ask for a key without keeping it. -/
  | publicKey (identity : Identity)
  | sign (identity : Identity) (challenge : Bytes)
  | exchange (command : Command)
  | loadKey (index : Nat)
  | loadKeys
  | add (identity : Identity)
  | remove (index : Nat)
  /-- Tell the token how to behave from now on. -/
  | direct (direction : ρ)
  deriving DecidableEq

/-- What an operation came to. -/
inductive Outcome where
  | answer (bytes : Bytes)
  | key (blob : KeyBlob)
  | signature (value : Signature)
  | response (value : Response)
  /-- The number of keys that are known. -/
  | count (keys : Nat)
  /-- The position of a new identity. -/
  | position (index : Nat)
  | removed (identity : Option Identity)
  | done
  deriving DecidableEq

variable {σ ρ : Type}

/-- The result and the next state of an operation that can fail. -/
def settle {α : Type} (wrap : α → Outcome) :
    EStateM.Result Error (Agent σ) α → Except Error Outcome × Agent σ
  | .ok result a => (.ok (wrap result), a)
  | .error e a => (.error e, a)

variable [Transport σ]

/-- Carry out an operation; `follow` is how the token takes a direction. -/
def perform (follow : σ → ρ → σ) (a : Agent σ) :
    Operation ρ → Except Error Outcome × Agent σ
  | .handle message => settle .answer (handle message a)
  | .publicKey i => settle .key (publicKey i a)
  | .sign i challenge => settle .signature (sign i challenge a)
  | .exchange command => settle .response (exchange command a)
  | .loadKey index => settle .key (loadKey index a)
  | .loadKeys => (.ok (.count a.loadKeys.1), a.loadKeys.2)
  | .add i => (.ok (.position (a.add i).1), (a.add i).2)
  | .remove index => (.ok (.removed (a.remove index).1), (a.remove index).2)
  | .direct direction => (.ok .done, { a with token := follow a.token direction })

/-- Carry out operations one after the other. -/
def performAll (follow : σ → ρ → σ) (a : Agent σ) :
    List (Operation ρ) → List (Except Error Outcome) × Agent σ
  | [] => ([], a)
  | operation :: rest =>
      let (outcome, a) := a.perform follow operation
      let (outcomes, a) := performAll follow a rest
      (outcome :: outcomes, a)

end Agent

end TokenAgent
