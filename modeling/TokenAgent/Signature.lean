import TokenAgent.Key.Error
import TokenAgent.Text.Utf8
import TokenAgent.Wire.Field

/-!
# Signatures

A token signs with two integers in a DER frame, which become two fields inside an SSH signature.

```text
30  length  02  r length  r  02  s length  s
```

The three bytes before the length of `r`, the tag before the length of `s` and whatever follows
`s` are not looked at.  `r` is taken as it is, a leading zero included; one leading zero of `s`
is dropped.
-/

namespace TokenAgent

/-- A signature in SSH wire form. -/
structure Signature where
  bytes : Bytes
  deriving DecidableEq, Repr

namespace Signature

/-- Bytes before the length of `r`. -/
def rLengthOffset : Nat := 3

/-- Drop one leading zero, if there is one. -/
def dropSignByte : Bytes → Bytes
  | 0 :: rest => rest
  | bs => bs

/-- The two integers of a token's signature. -/
def readIntegers : Reader (Bytes × Bytes) := do
  Reader.skip rLengthOffset
  let r ← Reader.take (← Reader.byte).toNat
  Reader.skip 1
  let s ← Reader.take (← Reader.byte).toNat
  return (r, dropSignByte s)

/-- The SSH form of a token's signature under the name of its key type. -/
def ofResponse (keyType : String) (payload : Bytes) : Except CodecError Signature :=
  match readIntegers payload with
  | .ok (r, s) _ => .ok ⟨Wire.fields [Utf8.encode keyType, Wire.fields [r, s]]⟩
  | .error missing _ => .error (.malformedSignature missing)

end Signature

end TokenAgent
