import TokenAgent.Digest.Sha256
import TokenAgent.Identity.Basic

/-!
# Derivation paths

The key of an identity is addressed by a digest of its canonical text: a purpose and the first
four words of the digest, each with the hardened bit set.

```text
digest = sha256 (index, four bytes little-endian, then the canonical text)
path   = [purpose, c0, c1, c2, c3]      ci = word i of the digest, little-endian
wire   = count, then the components, each four bytes big-endian
```
-/

namespace TokenAgent

/-- What a key is for. -/
inductive Purpose where
  | signing
  | keyAgreement
  deriving DecidableEq, Repr

def Purpose.number : Purpose → UInt32
  | .signing => 13
  | .keyAgreement => 17

structure DerivationPath where
  components : List UInt32
  deriving DecidableEq, Repr

namespace DerivationPath

/-- The bit of a component whose key cannot be derived from public data. -/
def hardened : UInt32 := 0x80000000

/-- The number of components taken from the digest. -/
def digestComponents : Nat := 4

/-- The digest that addresses the first key of a canonical text. -/
def digestOf (canonical : String) : Bytes :=
  Sha256.digest ([0, 0, 0, 0] ++ Utf8.encode canonical)

def ofCanonical (canonical : String) (purpose : Purpose) : DerivationPath :=
  let words := (Bytes.chunks 4 (digestOf canonical)).take digestComponents
  ⟨(hardened ||| purpose.number)
    :: words.map fun w => hardened ||| UInt32.ofNat (Bytes.ofLittleEndian w)⟩

/-- The path of an identity's key. -/
def ofIdentity (i : Identity) (purpose : Purpose) : DerivationPath :=
  ofCanonical i.canonical purpose

/-- The wire form of a path. -/
def toBytes (path : DerivationPath) : Bytes :=
  UInt8.ofNat path.components.length
    :: path.components.flatMap fun c => Bytes.bigEndian 4 c.toNat

end DerivationPath

end TokenAgent
