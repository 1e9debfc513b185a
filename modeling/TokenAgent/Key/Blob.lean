import TokenAgent.Key.Point
import TokenAgent.Text.Base64
import TokenAgent.Text.Utf8
import TokenAgent.Wire.Field

/-!
# SSH key blobs

The wire form of a public key is three fields: key type, curve, and the marked point.

* `KeyBlob.ofCoordinates` — the blob of a point;
* `KeyBlob.line` — the line of an authorized-keys file.
-/

namespace TokenAgent

/-- A public key in SSH wire form.  Keys are compared by their bytes. -/
structure KeyBlob where
  bytes : Bytes
  deriving DecidableEq, Repr

namespace KeyBlob

/-- The blob of a point under the names of its key type and curve. -/
def ofCoordinates (keyType curve : String) (point : Point.Coordinates) : KeyBlob :=
  ⟨Wire.fields
    [Utf8.encode keyType, Utf8.encode curve,
      Point.uncompressedMarker :: (point.x ++ point.y)]⟩

def size (k : KeyBlob) : Nat := k.bytes.length

def isEmpty (k : KeyBlob) : Bool := k.bytes.isEmpty

/-- The key type that the blob names, or nothing if its first field is cut or is not text. -/
def keyType (k : KeyBlob) : String :=
  match Reader.field k.bytes with
  | .ok name _ => (Utf8.decode? name).getD ""
  | .error _ _ => ""

/-- The line of an authorized-keys file: key type, blob in base64, comment. -/
def line (k : KeyBlob) (comment : String) : String :=
  k.keyType ++ " " ++ Base64.encode k.bytes ++ " " ++ comment

end KeyBlob

end TokenAgent
