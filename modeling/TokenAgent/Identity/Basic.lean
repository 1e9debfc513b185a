import TokenAgent.Command
import TokenAgent.Key.Blob
import TokenAgent.Text.Quoted

/-!
# Identities

An identity is a place to log in, `protocol://user@host:port/path`.  Its canonical text is what
its key is derived from and what clients are shown; the key itself is kept once a token has
reported it, and is never stored.
-/

namespace TokenAgent

/-- What can be wrong with a reference to an identity. -/
inductive IdentityError where
  /-- A locator without a host. -/
  | missingHost (text : String)
  /-- A locator whose port is not a number below 65536. -/
  | invalidPort (text : String)
  /-- A position past the end of the list. -/
  | noSuchIdentity (index : Nat)
  deriving DecidableEq, Repr

namespace IdentityError

def message : IdentityError → String
  | missingHost text => "identity has no host: " ++ Quoted.encode text
  | invalidPort text => "invalid port in identity " ++ Quoted.encode text
  | noSuchIdentity index => s!"no identity at index {index}"

end IdentityError

/-! ## Key types -/

/-- The kinds of key that identities have. -/
inductive KeyType where
  | nistp256
  deriving DecidableEq, Repr

namespace KeyType

/-- The name of the curve inside a key blob. -/
def curveName : KeyType → String
  | nistp256 => "nistp256"

/-- The name of the key type on the SSH wire. -/
def sshName : KeyType → String
  | nistp256 => "ecdsa-sha2-nistp256"

/-- The second parameter of a request for a public key. -/
def keyParameter : KeyType → UInt8
  | nistp256 => 0x01

/-- The second parameter of a request to sign an SSH challenge. -/
def signParameter (t : KeyType) : UInt8 :=
  t.keyParameter ||| Command.sshFlag

end KeyType

/-! ## Identities -/

structure Identity where
  /-- The name to show; empty for the canonical text. -/
  name : String
  /-- Empty for the default protocol. -/
  protocol : String
  user : String
  host : String
  port : Option UInt16
  path : String
  keyType : KeyType
  /-- The public key, once a token has reported it. -/
  key : Option KeyBlob
  deriving DecidableEq, Repr

namespace Identity

/-- The protocol of an identity that names none. -/
def defaultProtocol : String := "ssh"

/-- The identity of a host, all else left open. -/
def ofHost (host : String) : Identity :=
  ⟨"", "", "", host, none, "", .nistp256, none⟩

/-- The canonical text of an identity. -/
def canonical (i : Identity) : String :=
  (if i.protocol.isEmpty then defaultProtocol else i.protocol) ++ "://"
    ++ (if i.user.isEmpty then "" else i.user ++ "@")
    ++ i.host
    ++ (match i.port with
        | none => ""
        | some port => ":" ++ toString port.toNat)
    ++ (if i.path.isEmpty then "" else "/" ++ i.path)

/-- The name shown to people. -/
def displayName (i : Identity) : String :=
  if i.name.isEmpty then i.canonical else i.name

/-- The identity without its key, which is all that lasts. -/
def withoutKey (i : Identity) : Identity := { i with key := none }

end Identity

end TokenAgent
