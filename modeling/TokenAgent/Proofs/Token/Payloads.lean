import TokenAgent.Proofs.Identity.DerivationPath
import TokenAgent.Token

/-!
# The commands of a challenge

A challenge goes to the token behind the path of its key, in commands that hold as much of it as
they can.  The path takes 21 bytes of the first payload, so 234 bytes of the challenge fit behind
it, and 255 into every later payload (`Token.signPayloads_eq`).  Hence the number of payloads
(`Token.length_signPayloads`), which are carried by commands of one form
(`Token.toBytes_of_mem_signCommands`).
-/

namespace TokenAgent

namespace Token

variable {i : Identity} {challenge : Bytes}

theorem length_signPath (i : Identity) :
    (DerivationPath.ofIdentity i .signing).toBytes.length = 21 :=
  DerivationPath.length_toBytes_ofCanonical i.canonical .signing

/-! ## Payloads -/

theorem signPayloads_eq (i : Identity) (challenge : Bytes) :
    signPayloads i challenge
      = ((DerivationPath.ofIdentity i .signing).toBytes ++ challenge.take 234)
        :: Bytes.chunks Command.maxPayload (challenge.drop 234) := by
  have hpath := length_signPath i
  have hne : (DerivationPath.ofIdentity i .signing).toBytes ++ challenge ≠ [] := by
    intro hnil
    have hlength := congrArg List.length hnil
    rw [List.length_append, hpath] at hlength
    simp at hlength
  -- The path lies in the first block as a whole, and the challenge fills up what is left of it.
  rw [signPayloads, Bytes.chunks_of_ne_nil (by decide) hne, List.take_append, List.drop_append,
    List.take_of_length_le (by rw [hpath]; decide), List.drop_eq_nil_of_le (by rw [hpath]; decide),
    hpath]
  rfl

theorem length_signPayloads (i : Identity) (challenge : Bytes) :
    (signPayloads i challenge).length
      = if challenge.length ≤ 234 then 1 else 1 + (challenge.length - 234) ⌈/⌉ 255 := by
  have hlater : (Bytes.chunks Command.maxPayload (challenge.drop 234)).length
      = (challenge.length - 234) ⌈/⌉ 255 := by
    rw [Bytes.length_chunks_ceilDiv (by decide), List.length_drop]
    rfl
  rw [signPayloads_eq, List.length_cons, hlater, Nat.add_comm]
  by_cases hshort : challenge.length ≤ 234
  · -- All of the challenge is in the first payload, and no other follows.
    rw [if_pos hshort, Nat.sub_eq_zero_of_le hshort, zero_ceilDiv, Nat.add_zero]
  · rw [if_neg hshort]

theorem flatten_signPayloads (i : Identity) (challenge : Bytes) :
    (signPayloads i challenge).flatten
      = (DerivationPath.ofIdentity i .signing).toBytes ++ challenge :=
  Bytes.flatten_chunks _ _

/-! ## Commands -/

/-- The commands that carry a challenge. -/
def signCommands (i : Identity) (challenge : Bytes) : List Command :=
  (signPayloads i challenge).pmap
    (fun payload fits =>
      ⟨Command.agentClass, Command.sign, 0, i.keyType.signParameter, payload, fits⟩)
    (fun _ hmem => Bytes.length_le_of_mem_chunks (by decide) hmem)

theorem map_payload_signCommands (i : Identity) (challenge : Bytes) :
    (signCommands i challenge).map Command.payload = signPayloads i challenge := by
  simp [signCommands, List.map_pmap]

theorem length_signCommands (i : Identity) (challenge : Bytes) :
    (signCommands i challenge).length = (signPayloads i challenge).length :=
  List.length_pmap

theorem signCommands_ne_nil (i : Identity) (challenge : Bytes) : signCommands i challenge ≠ [] := by
  intro hnil
  have hlength := length_signCommands i challenge
  rw [hnil, signPayloads_eq] at hlength
  cases hlength

theorem signCommand_of_mem {c : Command} (h : c ∈ signCommands i challenge) :
    signCommand i c.payload = .ok c := by
  rcases List.mem_pmap.1 h with ⟨payload, hmem, rfl⟩
  exact dif_pos _

theorem toBytes_of_mem_signCommands {c : Command} (h : c ∈ signCommands i challenge) :
    c.toBytes = [0x80, 0x04, 0x00, 0x81, UInt8.ofNat c.payload.length] ++ c.payload := by
  rcases List.mem_pmap.1 h with ⟨payload, hmem, rfl⟩
  -- There is one type of key, and with it one parameter.
  have hparameter : i.keyType.signParameter = 0x81 := by
    cases i.keyType with
    | nistp256 => rfl
  rw [Command.toBytes, hparameter]
  rfl

/-- The length byte of a command says how long its payload is. -/
theorem toNat_length_payload (c : Command) :
    (UInt8.ofNat c.payload.length).toNat = c.payload.length := by
  have hfits := c.payload_le
  rw [Command.maxPayload] at hfits
  exact UInt8.toNat_ofNat_of_lt' (Nat.lt_of_le_of_lt hfits (by decide))

/-- Commands that carry a challenge behind a path, with as few of them as can be. -/
structure Carries (commands : List Command) (path challenge : Bytes) : Prop where
  count : commands.length
    = if challenge.length ≤ 234 then 1 else 1 + (challenge.length - 234) ⌈/⌉ 255
  form : ∀ c ∈ commands, ∃ length : UInt8, length.toNat = c.payload.length ∧
    c.toBytes = [0x80, 0x04, 0x00, 0x81, length] ++ c.payload
  all : (commands.map Command.payload).flatten = path ++ challenge
  /-- The path is in the first payload and in no other. -/
  first : ∃ later, commands.map Command.payload = (path ++ challenge.take 234) :: later ∧
    later.flatten = challenge.drop 234 ∧ ∀ payload ∈ later, payload ≠ []
  full : ∀ payload ∈ (commands.map Command.payload).dropLast, payload.length = 255

theorem carries_signCommands (i : Identity) (challenge : Bytes) :
    Carries (signCommands i challenge) (DerivationPath.ofIdentity i .signing).toBytes
      challenge where
  count := by
    rw [length_signCommands, length_signPayloads]
  form := by
    intro c hmem
    exact ⟨UInt8.ofNat c.payload.length, toNat_length_payload c, toBytes_of_mem_signCommands hmem⟩
  all := by
    rw [map_payload_signCommands, flatten_signPayloads]
  first := by
    refine ⟨Bytes.chunks Command.maxPayload (challenge.drop 234), ?_, ?_, ?_⟩
    · rw [map_payload_signCommands, signPayloads_eq]
    · exact Bytes.flatten_chunks _ _
    · intro payload hmem
      exact Bytes.ne_nil_of_mem_chunks hmem
  full := by
    intro payload hmem
    rw [map_payload_signCommands] at hmem
    exact Bytes.length_of_mem_dropLast_chunks (by decide) hmem

/-- The first command holds the path, and as much of the challenge as fits behind it. -/
theorem exists_first_command (i : Identity) (challenge : Bytes) :
    ∃ (length : UInt8) (first : Command) (later : List Command),
      signCommands i challenge = first :: later ∧
      first.toBytes = [0x80, 0x04, 0x00, 0x81, length]
        ++ ((DerivationPath.ofIdentity i .signing).toBytes ++ challenge.take 234) := by
  rcases (carries_signCommands i challenge).first with ⟨payloads, hpayloads, _⟩
  -- The first payload is the payload of the first command.
  rcases List.map_eq_cons_iff.1 hpayloads with ⟨first, later, hcommands, hfirst, _⟩
  have hmem : first ∈ signCommands i challenge := by
    rw [hcommands]
    exact List.mem_cons_self
  rcases (carries_signCommands i challenge).form first hmem with ⟨length, _, hbytes⟩
  refine ⟨length, first, later, hcommands, ?_⟩
  rw [hbytes, hfirst]

end Token

end TokenAgent
