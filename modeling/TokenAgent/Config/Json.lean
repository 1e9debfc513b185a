import TokenAgent.Config.Basic
import TokenAgent.Identity.Json

/-!
# The configuration as JSON

Every field may be missing and then takes its default.  What is written is text, so a
configuration whose socket path is none cannot be written.

* `Config.pathText`, `Config.json` — the compact text;
* `Config.reader`, `Config.ofJson` — reading it.
-/

namespace TokenAgent

namespace Config

/-! ## Writing -/

/-- Why a configuration cannot be written. -/
inductive WriteFault where
  /-- The socket path is not well-formed UTF-8. -/
  | pathNotText
  deriving DecidableEq, Repr

def WriteFault.message : WriteFault → String
  | pathNotText => "path contains invalid UTF-8 characters"

/-- The text of the socket path, if there is a path. -/
def pathText (c : Config) : Except WriteFault (Option String) :=
  match c.socketPath with
  | none => .ok none
  | some path =>
      match path.text? with
      | none => .error .pathNotText
      | some text => .ok (some text)

/-- The members of a configuration; a socket path is written only if there is one. -/
def jsonMembers (c : Config) (path : Option String) : List (String × List Char) :=
  [("read_timeout_secs", Json.natural c.readTimeoutSeconds.toNat),
    ("poll_interval_ms", Json.natural c.pollIntervalMillis.toNat)]
  ++ (match path with
      | none => []
      | some path => [("socket_path", Json.encode path)])
  ++ [("identities", Json.array (c.identities.map Identity.toJson))]

/-- The compact JSON text of a configuration, if it can be written. -/
def json (c : Config) : Except WriteFault String := do
  let path ← c.pathText
  return String.ofList (Json.object (c.jsonMembers path))

/-! ## Reading -/

/-- A configuration of which every field may be missing. -/
structure Draft where
  readTimeoutSeconds : Option UInt64
  pollIntervalMillis : Option UInt64
  socketPath : Option (Option SocketPath)
  identities : Option (List Identity)

namespace Draft

def empty : Draft := ⟨none, none, none, none⟩

def count : Json.Reader UInt64 := do
  return UInt64.ofNat (← Json.Reader.unsigned 18446744073709551615 "u64")

def path : Json.Reader (Option SocketPath) := do
  return (← Json.Reader.optional (Json.Reader.string "path string")).map SocketPath.ofText

/-- The fields in their order. -/
def fields : List (Json.Field Draft) := [
  ⟨"read_timeout_secs", fun d => d.readTimeoutSeconds.isSome,
    fun d => do return { d with readTimeoutSeconds := some (← count) }⟩,
  ⟨"poll_interval_ms", fun d => d.pollIntervalMillis.isSome,
    fun d => do return { d with pollIntervalMillis := some (← count) }⟩,
  ⟨"socket_path", fun d => d.socketPath.isSome,
    fun d => do return { d with socketPath := some (← path) }⟩,
  ⟨"identities", fun d => d.identities.isSome,
    fun d => do
      return { d with identities := some (← Json.Reader.list Identity.reader "a sequence") }⟩]

/-- The configuration of a draft, defaults for what is missing. -/
def finish (d : Draft) : Config :=
  ⟨d.readTimeoutSeconds.getD Config.default.readTimeoutSeconds,
    d.pollIntervalMillis.getD Config.default.pollIntervalMillis,
    d.socketPath.getD Config.default.socketPath,
    d.identities.getD Config.default.identities⟩

end Draft

def reader : Json.Reader Config :=
  Json.Reader.record Draft.fields Draft.empty (fun _ d => .ok d.finish) "struct AgentConfig"

/-- The configuration that a JSON text describes. -/
def ofJson (text : String) : Except Json.Error Config :=
  Json.Reader.document reader text

end Config

end TokenAgent
