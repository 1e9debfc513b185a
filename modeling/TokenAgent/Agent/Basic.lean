import TokenAgent.Token

/-!
# The agent

The agent holds a token and the identities whose keys it offers.  Keys are asked from the token
and kept with their identities; nothing else of an identity ever changes.

* `Agent.add`, `Agent.remove` — the list of identities;
* `Agent.loadKey`, `Agent.loadKeys` — ask the token for keys;
* `Agent.keyed`, `Agent.find?` — the identities whose keys are known.
-/

namespace TokenAgent

/-- A token, the timing of exchanges with it, and the identities in use. -/
structure Agent (σ : Type) where
  token : σ
  timing : Timing
  identities : List Identity

namespace Agent

variable {σ : Type}

/-! ## The list of identities -/

/-- Add an identity to the end of the list; the result is its position. -/
def add (a : Agent σ) (i : Identity) : Nat × Agent σ :=
  (a.identities.length, { a with identities := a.identities ++ [i] })

/-- Take the identity at a position off the list. -/
def remove (a : Agent σ) (index : Nat) : Option Identity × Agent σ :=
  (a.identities[index]?, { a with identities := a.identities.eraseIdx index })

/-- The identities whose keys are known, in the order of the list. -/
def keyed (a : Agent σ) : List (Identity × KeyBlob) :=
  a.identities.filterMap fun i => i.key.map fun key => (i, key)

def keyedCount (a : Agent σ) : Nat :=
  a.identities.countP fun i => i.key.isSome

/-- The first identity with this key. -/
def find? (a : Agent σ) (key : Bytes) : Option Identity :=
  (a.keyed.find? fun entry => entry.2.bytes == key).map Prod.fst

/-- Keep the key of the identity at a position. -/
def setKey (a : Agent σ) (index : Nat) (key : KeyBlob) : Agent σ :=
  { a with identities := a.identities.modify index fun i => { i with key := some key } }

/-! ## Operations of the token -/

/-- Carry out an operation of the token. -/
def onToken {α : Type} (operation : EStateM Error σ α) : EStateM Error (Agent σ) α := fun a =>
  match operation a.token with
  | .ok result token => .ok result { a with token := token }
  | .error e token => .error e { a with token := token }

variable [Transport σ]

/-- The public key of an identity, which is not kept. -/
def publicKey (i : Identity) : EStateM Error (Agent σ) KeyBlob := do
  onToken (Token.publicKey (← get).timing i)

/-- A signature with the key of an identity. -/
def sign (i : Identity) (challenge : Bytes) : EStateM Error (Agent σ) Signature := do
  onToken (Token.sign (← get).timing i challenge)

/-- Any exchange with the token. -/
def exchange (command : Command) : EStateM Error (Agent σ) Response := do
  onToken (Exchange.run (← get).timing command)

/-- Ask the token for the key of the identity at a position, and keep it. -/
def loadKey (index : Nat) : EStateM Error (Agent σ) KeyBlob := do
  match (← get).identities[index]? with
  | none => throw (.identity (.noSuchIdentity index))
  | some i =>
      let key ← publicKey i
      modify fun a => a.setKey index key
      return key

/-- Ask the token for the keys at the given positions, failures aside. -/
def loadEach (a : Agent σ) : List Nat → Agent σ
  | [] => a
  | index :: rest =>
      match loadKey index a with
      | .ok _ a => loadEach a rest
      | .error _ a => loadEach a rest

/-- Ask the token for every key; the result is the number of keys that are known then. -/
def loadKeys (a : Agent σ) : Nat × Agent σ :=
  let loaded := a.loadEach (List.range a.identities.length)
  (loaded.keyedCount, loaded)

end Agent

end TokenAgent
