import TokenAgent.Identity.DerivationPath
import TokenAgent.Identity.Json
import TokenAgent.Proofs.Json.Accepted
import TokenAgent.Proofs.Json.Number
import TokenAgent.Proofs.Json.Record

/-!
# Identities are read back from JSON

What is written of an identity is read back as the identity without its key
(`Identity.reads_toJson`).  No text that is read as an identity gives it a key
(`Identity.reader_yields`).
-/

namespace TokenAgent

open Json.Reader

theorem KeyType.reads_configName (k : KeyType) :
    Reads KeyType.reader (Json.encode k.configName) k := by
  have hname : KeyType.ofConfigName? k.configName = some k := by
    cases k
    rfl
  exact reads_variant hname _

namespace Identity

/-! ## Written identities -/

theorem reads_port (port : UInt16) :
    Reads (optional Draft.portNumber) (Json.natural port.toNat) (some port) := by
  have hlimit : port.toNat ≤ 65535 := Nat.le_of_lt_succ port.toNat_lt
  have hnumber := (reads_unsigned (by decide) hlimit "u16").map UInt16.ofNat
  rw [UInt16.ofNat_toNat] at hnumber
  rcases Json.exists_natural_cons port.toNat with ⟨c, more, hport, hdigit⟩
  have hnull : c ≠ 'n' := by
    rintro rfl
    exact absurd hdigit (by decide)
  rw [hport] at hnumber ⊢
  exact Reads.optional hnumber (isBlank_of_isDigit hdigit) hnull

/-- The draft that the members of an identity fill. -/
def Draft.ofIdentity (i : Identity) : Draft :=
  ⟨some i.name, some i.protocol, some i.user, some i.host, i.port.map some, some i.path,
    some i.keyType⟩

theorem Draft.finish_ofIdentity (i : Identity) :
    Draft.finish false (Draft.ofIdentity i) = .ok i.withoutKey := by
  rcases i with ⟨name, protocol, user, host, _ | port, path, keyType, key⟩ <;> rfl

theorem fills_jsonMembers (i : Identity) :
    Fills Draft.fields Draft.empty i.jsonMembers (Draft.ofIdentity i) := by
  have htext : ∀ s, Reads Draft.text (Json.encode s) s := reads_string "a string"
  have hplace : Fills Draft.fields Draft.empty
      [("name", Json.encode i.name), ("protocol", Json.encode i.protocol),
        ("user", Json.encode i.user), ("host", Json.encode i.host)]
      ⟨some i.name, some i.protocol, some i.user, some i.host, none, none, none⟩ :=
    .known rfl rfl ((htext i.name).map _) <| .known rfl rfl ((htext i.protocol).map _) <|
      .known rfl rfl ((htext i.user).map _) <| .known rfl rfl ((htext i.host).map _) <| .nil _
  have hrest : Fills Draft.fields
      ⟨some i.name, some i.protocol, some i.user, some i.host, i.port.map some, none, none⟩
      [("path", Json.encode i.path), ("key_type", Json.encode i.keyType.configName)]
      (Draft.ofIdentity i) :=
    .known rfl rfl ((htext i.path).map _) <| .known rfl rfl (i.keyType.reads_configName.map _) <|
      .nil _
  rw [jsonMembers]
  refine (hplace.append ?_).append hrest
  -- A port is a member only if there is one.
  cases i.port with
  | none => exact .nil _
  | some port => exact .known rfl rfl ((reads_port port).map _) (.nil _)

theorem reads_toJson (i : Identity) : Reads Identity.reader i.toJson i.withoutKey :=
  reads_record i.fills_jsonMembers (Draft.finish_ofIdentity i) _

theorem opens_toJson (i : Identity) : Opens i.toJson :=
  ⟨'\x7b', _, rfl, rfl, by decide⟩

theorem ofJson_json (i : Identity) : ofJson i.json = .ok i.withoutKey :=
  i.reads_toJson.document

theorem json_withoutKey (i : Identity) : i.withoutKey.json = i.json := rfl

/-- Written identities are the same if and only if the identities differ in their keys at most. -/
theorem json_eq_iff {i j : Identity} : i.json = j.json ↔ i.withoutKey = j.withoutKey := by
  constructor
  · intro hsame
    have hread : (.ok i.withoutKey : Except Json.Error Identity) = .ok j.withoutKey := by
      rw [← ofJson_json, hsame, ofJson_json]
    exact Except.ok.inj hread
  · intro hsame
    calc
      i.json = i.withoutKey.json := i.json_withoutKey.symm
      _ = j.withoutKey.json := by rw [hsame]
      _ = j.json := j.json_withoutKey

/-- A stored key is passed over like any member that an identity does not have. -/
theorem ofJson_with_key (i : Identity) (key : String) :
    ofJson (String.ofList
      (Json.object (i.jsonMembers ++ [("cached_public_key", Json.encode key)])))
        = .ok i.withoutKey := by
  have hkey : Reads (member Draft.fields (Draft.ofIdentity i) "cached_public_key")
      (':' :: Json.encode key) (Draft.ofIdentity i) :=
    reads_member_unknown _ rfl (reads_skipValue key)
  have hfills := i.fills_jsonMembers.append (.cons hkey (.nil _))
  exact (reads_record hfills (Draft.finish_ofIdentity i) _).document

/-! ## Accepted texts -/

theorem reader_yields : Yields Identity.reader fun i => i.key = none := by
  have hfill : ∀ field ∈ Draft.fields, ∀ d, True → Yields (field.fill d) fun _ => True :=
    fun field _ d _ => yields_true (field.fill d)
  have hfinish : ∀ inList d i, True → Draft.finish inList d = .ok i → i.key = none := by
    rintro inList ⟨name, protocol, user, _ | host, port, path, keyType⟩ i _ hdone
    · cases hdone
    · cases hdone
      rfl
  exact record_yields hfill trivial hfinish _

end Identity

end TokenAgent
