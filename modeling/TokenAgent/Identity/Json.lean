import TokenAgent.Identity.Basic
import TokenAgent.Json.Printer
import TokenAgent.Json.Record

/-!
# Identities as JSON

An identity is a record of name, protocol, user, host, port, path and key type.  Only the host
has to be given.  Its key is neither written nor read.

* `Identity.toJson`, `Identity.json` — the compact text;
* `Identity.reader`, `Identity.ofJson` — reading it.
-/

namespace TokenAgent

namespace KeyType

/-- The name of a key type in a configuration. -/
def configName : KeyType → String
  | nistp256 => "nistp256"

def ofConfigName? : String → Option KeyType
  | "nistp256" => some .nistp256
  | _ => none

def reader : Json.Reader KeyType :=
  Json.Reader.variant ofConfigName? "nistp256"

end KeyType

namespace Identity

/-! ## Writing -/

/-- The members of an identity; a port is written only if there is one. -/
def jsonMembers (i : Identity) : List (String × List Char) :=
  [("name", Json.encode i.name), ("protocol", Json.encode i.protocol),
    ("user", Json.encode i.user), ("host", Json.encode i.host)]
  ++ (match i.port with
      | none => []
      | some port => [("port", Json.natural port.toNat)])
  ++ [("path", Json.encode i.path), ("key_type", Json.encode i.keyType.configName)]

def toJson (i : Identity) : List Char :=
  Json.object i.jsonMembers

/-- The compact JSON text of an identity. -/
def json (i : Identity) : String :=
  String.ofList i.toJson

/-! ## Reading -/

/-- An identity of which every field may be missing. -/
structure Draft where
  name : Option String
  protocol : Option String
  user : Option String
  host : Option String
  port : Option (Option UInt16)
  path : Option String
  keyType : Option KeyType

namespace Draft

def empty : Draft := ⟨none, none, none, none, none, none, none⟩

def text : Json.Reader String := Json.Reader.string "a string"

def portNumber : Json.Reader UInt16 := do
  return UInt16.ofNat (← Json.Reader.unsigned 65535 "u16")

/-- The fields in their order. -/
def fields : List (Json.Field Draft) := [
  ⟨"name", fun d => d.name.isSome, fun d => do return { d with name := some (← text) }⟩,
  ⟨"protocol", fun d => d.protocol.isSome, fun d => do return { d with protocol := some (← text) }⟩,
  ⟨"user", fun d => d.user.isSome, fun d => do return { d with user := some (← text) }⟩,
  ⟨"host", fun d => d.host.isSome, fun d => do return { d with host := some (← text) }⟩,
  ⟨"port", fun d => d.port.isSome,
    fun d => do return { d with port := some (← Json.Reader.optional portNumber) }⟩,
  ⟨"path", fun d => d.path.isSome, fun d => do return { d with path := some (← text) }⟩,
  ⟨"key_type", fun d => d.keyType.isSome,
    fun d => do return { d with keyType := some (← KeyType.reader) }⟩]

/-- The identity of a draft.  A list without a host is a list that is too short. -/
def finish (inList : Bool) (d : Draft) : Except Json.Mismatch Identity :=
  match d.host with
  | none =>
      .error (if inList then .invalidLength 3 "struct Identity with 7 elements"
        else .missingField "host")
  | some host =>
      .ok ⟨d.name.getD "", d.protocol.getD "", d.user.getD "", host, d.port.getD none,
        d.path.getD "", d.keyType.getD .nistp256, none⟩

end Draft

def reader : Json.Reader Identity :=
  Json.Reader.record Draft.fields Draft.empty Draft.finish "struct Identity"

/-- The identity that a JSON text describes. -/
def ofJson (text : String) : Except Json.Error Identity :=
  Json.Reader.document reader text

end Identity

end TokenAgent
