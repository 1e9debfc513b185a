import TokenAgent.Config.Json
import TokenAgent.Proofs.Identity.Json

/-!
# Configurations are read back from JSON

A configuration can be written if its socket path is a text (`Config.PathIsText`).  If it is
written and read again it is the same but for the keys of its identities, which are never written,
and which no text can bring in.

* `Config.pathText_eq_ok_iff`, `Config.ofJson_of_json` — which configurations are written, and
  that they are read back;
* `Config.json_round_trip` — saving and loading;
* `Config.not_json_of_path_no_text` — that there are configurations which cannot be saved.
-/

namespace TokenAgent

open Json.Reader

theorem SocketPath.text?_eq_some_iff {path : SocketPath} {text : String} :
    path.text? = some text ↔ path = ofText text := by
  rw [text?, Utf8.decode?_eq_some_iff, ofText]
  constructor
  · intro hbytes
    exact congrArg SocketPath.mk hbytes
  · rintro rfl
    rfl

namespace Config

variable {c d : Config} {path : Option String} {text : String}

/-! ## Configurations that can be written -/

/-- There is no socket path, or it is that of a text. -/
def PathIsText (c : Config) : Prop :=
  ∃ path : Option String, c.socketPath = path.map SocketPath.ofText

theorem pathText_eq_ok_iff : c.pathText = .ok path ↔ c.socketPath = path.map SocketPath.ofText := by
  rw [pathText]
  constructor
  · intro h
    cases hgiven : c.socketPath with
    | none =>
        rw [hgiven] at h
        cases h
        rfl
    | some given =>
        cases htext : given.text? with
        | none =>
            simp only [hgiven, htext] at h
            cases h
        | some text =>
            simp only [hgiven, htext] at h
            cases h
            exact congrArg some (SocketPath.text?_eq_some_iff.1 htext)
  · intro h
    rw [h]
    cases path with
    | none => rfl
    | some text =>
        have htext : (SocketPath.ofText text).text? = some text :=
          SocketPath.text?_eq_some_iff.2 rfl
        simp only [Option.map_some, htext]

/-- A path that is no text is the only reason for which a configuration is not written. -/
theorem json_of_not_text (h : ¬ c.PathIsText) : c.json = .error .pathNotText := by
  cases hpath : c.pathText with
  | ok path => exact absurd ⟨path, pathText_eq_ok_iff.1 hpath⟩ h
  | error e =>
      cases e
      rw [json, hpath]
      rfl

/-! ## Written configurations -/

theorem reads_count (n : UInt64) : Reads Draft.count (Json.natural n.toNat) n := by
  have hlimit : n.toNat ≤ 18446744073709551615 := Nat.le_of_lt_succ n.toNat_lt
  have hnumber := (reads_unsigned (by decide) hlimit "u64").map UInt64.ofNat
  rw [UInt64.ofNat_toNat] at hnumber
  exact hnumber

theorem reads_path (text : String) :
    Reads Draft.path (Json.encode text) (some (SocketPath.ofText text)) :=
  (Reads.optional (reads_string "path string" text) rfl (by decide)).map _

/-- The draft that the members of a configuration fill. -/
def Draft.ofConfig (c : Config) (path : Option String) : Draft :=
  ⟨some c.readTimeoutSeconds, some c.pollIntervalMillis,
    path.map fun text => some (SocketPath.ofText text),
    some (c.identities.map Identity.withoutKey)⟩

theorem Draft.finish_ofConfig (hpath : c.socketPath = path.map SocketPath.ofText) :
    (Draft.ofConfig c path).finish = c.withoutKeys := by
  rcases c with ⟨seconds, millis, given, identities⟩
  cases hpath
  cases path <;> rfl

theorem fills_jsonMembers (c : Config) (path : Option String) :
    Fills Draft.fields Draft.empty (c.jsonMembers path) (Draft.ofConfig c path) := by
  have htiming : Fills Draft.fields Draft.empty
      [("read_timeout_secs", Json.natural c.readTimeoutSeconds.toNat),
        ("poll_interval_ms", Json.natural c.pollIntervalMillis.toNat)]
      ⟨some c.readTimeoutSeconds, some c.pollIntervalMillis, none, none⟩ :=
    .known rfl rfl ((reads_count c.readTimeoutSeconds).map _) <|
      .known rfl rfl ((reads_count c.pollIntervalMillis).map _) <| .nil _
  have hlist := reads_list Identity.reads_toJson Identity.opens_toJson c.identities "a sequence"
  have hidentities : Fills Draft.fields
      ⟨some c.readTimeoutSeconds, some c.pollIntervalMillis,
        path.map fun text => some (SocketPath.ofText text), none⟩
      [("identities", Json.array (c.identities.map Identity.toJson))] (Draft.ofConfig c path) :=
    .known rfl rfl (hlist.map _) <| .nil _
  refine (htiming.append ?_).append hidentities
  -- A socket path is a member only if there is one.
  cases path with
  | none => exact .nil _
  | some text => exact .known rfl rfl ((reads_path text).map _) (.nil _)

theorem reads_jsonMembers (hpath : c.socketPath = path.map SocketPath.ofText) :
    Reads Config.reader (Json.object (c.jsonMembers path)) c.withoutKeys :=
  reads_record (c.fills_jsonMembers path) (congrArg Except.ok (Draft.finish_ofConfig hpath)) _

theorem exists_json (h : c.PathIsText) :
    ∃ text, c.json = .ok text ∧ ofJson text = .ok c.withoutKeys := by
  rcases h with ⟨path, hpath⟩
  refine ⟨_, ?_, (reads_jsonMembers hpath).document⟩
  rw [json, pathText_eq_ok_iff.2 hpath]
  rfl

/-- What is written is read back. -/
theorem ofJson_of_json (h : c.json = .ok text) : ofJson text = .ok c.withoutKeys := by
  by_cases hpath : c.PathIsText
  · rcases exists_json hpath with ⟨written, hwritten, hread⟩
    rw [h] at hwritten
    cases hwritten
    exact hread
  · rw [json_of_not_text hpath] at h
    cases h

/-! ## Accepted texts -/

/-- A draft that makes a configuration which can be written and whose identities have no keys. -/
structure Draft.Plain (d : Draft) : Prop where
  path : ∀ given, d.socketPath = some given →
    ∃ text : Option String, given = text.map SocketPath.ofText
  keyless : ∀ identities, d.identities = some identities → ∀ i ∈ identities, i.key = none

theorem Draft.plain_fill {field : Json.Field Draft} (hfield : field ∈ Draft.fields) {d : Draft}
    (hd : d.Plain) : Yields (field.fill d) Draft.Plain := by
  simp only [Draft.fields, List.mem_cons, List.not_mem_nil, or_false] at hfield
  rcases hfield with rfl | rfl | rfl | rfl
  -- The timing has no part in it.
  iterate 2 · exact yields_of_later fun _ => yields_pure ⟨hd.path, hd.keyless⟩
  · have hpath : Yields Draft.path fun given =>
        ∃ text : Option String, given = text.map SocketPath.ofText :=
      yields_of_later fun text => yields_pure ⟨text, rfl⟩
    refine hpath.bind fun given hgiven => yields_pure ⟨?_, hd.keyless⟩
    intro given' hsame
    cases hsame
    exact hgiven
  · refine (list_yields Identity.reader_yields "a sequence").bind fun read hread => ?_
    refine yields_pure ⟨hd.path, ?_⟩
    intro identities hidentities
    cases hidentities
    exact hread

theorem Draft.plain_finish {d : Draft} (hd : d.Plain) :
    d.finish.PathIsText ∧ ∀ i ∈ d.finish.identities, i.key = none := by
  rcases d with ⟨seconds, millis, path, identities⟩
  constructor
  · cases path with
    | none => exact ⟨none, rfl⟩
    | some given => exact hd.path given rfl
  · cases identities with
    | none =>
        intro i hi
        cases hi
    | some identities => exact hd.keyless identities rfl

theorem reader_yields :
    Yields Config.reader fun c => c.PathIsText ∧ ∀ i ∈ c.identities, i.key = none := by
  have hempty : Draft.empty.Plain := by
    constructor
    · intro given hgiven
      cases hgiven
    · intro identities hidentities
      cases hidentities
  refine record_yields (fun _ hfield _ hd => Draft.plain_fill hfield hd) hempty ?_ _
  intro inList d c hd hdone
  cases hdone
  exact Draft.plain_finish hd

/-! ## Saving and loading -/

theorem json_withoutKeys (c : Config) : c.withoutKeys.json = c.json := by
  have hidentities : (c.identities.map Identity.withoutKey).map Identity.toJson
      = c.identities.map Identity.toJson := by
    rw [List.map_map]
    rfl
  have hmembers : c.withoutKeys.jsonMembers = c.jsonMembers := by
    funext path
    simp only [jsonMembers, withoutKeys, hidentities]
  rw [json, json, hmembers]
  rfl

theorem map_withoutKey {α : Type} {f : Identity → α} (hf : ∀ i, f i.withoutKey = f i)
    (identities : List Identity) :
    (identities.map Identity.withoutKey).map f = identities.map f := by
  rw [List.map_map]
  exact List.map_congr_left fun i _ => hf i

theorem json_of_withoutKeys (h : c.withoutKeys = d.withoutKeys) : c.json = d.json := by
  calc
    c.json = c.withoutKeys.json := c.json_withoutKeys.symm
    _ = d.withoutKeys.json := by rw [h]
    _ = d.json := d.json_withoutKeys

theorem json_eq_iff (hpath : c.PathIsText) : c.json = d.json ↔ c.withoutKeys = d.withoutKeys := by
  constructor
  · intro hsame
    rcases exists_json hpath with ⟨text, hjson, hread⟩
    rw [ofJson_of_json (hsame.symm.trans hjson)] at hread
    exact (Except.ok.inj hread).symm
  · exact json_of_withoutKeys

/-- A configuration can be saved exactly if it has no socket path or that of a text.  Saving and
loading keeps all but the keys, which are neither written nor read: what is written is read back
without them, so it tells apart all that differs in more than keys, and no accepted text brings a
key in, though it may have a member of that name.  What identities are called and where their keys
are derived stays the same. -/
theorem json_round_trip :
    (∀ c : Config, (∃ text, c.json = .ok text ∧ ofJson text = .ok c.withoutKeys) ↔
      c.PathIsText) ∧
    (∀ c : Config, ¬ c.PathIsText → c.json = .error .pathNotText) ∧
    (∀ i : Identity, Identity.ofJson i.json = .ok i.withoutKey) ∧
    (∀ c d : Config, c.withoutKeys = d.withoutKeys → c.json = d.json) ∧
    (∀ c d : Config, c.PathIsText → (c.json = d.json ↔ c.withoutKeys = d.withoutKeys)) ∧
    (∀ i j : Identity, i.json = j.json ↔ i.withoutKey = j.withoutKey) ∧
    (∀ text c, ofJson text = .ok c → c.PathIsText ∧ ∀ i ∈ c.identities, i.key = none) ∧
    (∀ text i, Identity.ofJson text = .ok i → i.key = none) ∧
    (∀ (i : Identity) (key : String),
      Identity.ofJson (String.ofList
        (Json.object (i.jsonMembers ++ [("cached_public_key", Json.encode key)])))
          = .ok i.withoutKey) ∧
    ∀ (c d : Config) (text : String), c.json = .ok text → ofJson text = .ok d →
      d.identities.map Identity.canonical = c.identities.map Identity.canonical ∧
      d.identities.map Identity.displayName = c.identities.map Identity.displayName ∧
      d.identities.map DerivationPath.ofIdentity = c.identities.map DerivationPath.ofIdentity := by
  refine ⟨?_, fun _ => json_of_not_text, Identity.ofJson_json, fun _ _ => json_of_withoutKeys,
    fun _ _ => json_eq_iff, fun _ _ => Identity.json_eq_iff, ?_, ?_, Identity.ofJson_with_key, ?_⟩
  · intro c
    constructor
    · rintro ⟨text, hjson, _⟩
      by_contra hpath
      rw [json_of_not_text hpath] at hjson
      cases hjson
    · exact exists_json
  · intro text c haccepted
    exact reader_yields.document haccepted
  · intro text i haccepted
    exact Identity.reader_yields.document haccepted
  · intro c d text hjson hloaded
    rw [ofJson_of_json hjson] at hloaded
    cases hloaded
    exact ⟨map_withoutKey (fun _ => rfl) _, map_withoutKey (fun _ => rfl) _,
      map_withoutKey (fun _ => rfl) _⟩

/-- A socket path of one byte that no text begins with: there is nothing to read back. -/
theorem not_json_of_path_no_text :
    ¬ ∀ c : Config, ∃ text, c.json = .ok text ∧ ofJson text = .ok c.withoutKeys := by
  intro h
  rcases h { Config.default with socketPath := some ⟨[0xFF]⟩ } with ⟨text, hjson, _⟩
  have hfault : json { Config.default with socketPath := some ⟨[0xFF]⟩ }
      = .error .pathNotText := by
    decide +kernel
  rw [hfault] at hjson
  cases hjson

end Config

end TokenAgent
