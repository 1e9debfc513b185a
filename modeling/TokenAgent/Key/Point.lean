import TokenAgent.Curve.P256
import TokenAgent.Key.Error

/-!
# Points as bytes

A token answers a request for a public key with a length byte, a marker and the two coordinates
of 32 bytes.  The agent keeps `x` and the parity of `y`, and recovers `y` from the curve, so no
point off the curve gets any further.

* `Point.compressedOfResponse` — parity byte and `x` from a response;
* `Point.decompress` — both coordinates from parity byte and `x`.
-/

namespace TokenAgent

namespace Point

/-- Bytes in a coordinate. -/
def coordinateSize : Nat := 32

/-- The byte in front of a point given by both coordinates. -/
def uncompressedMarker : UInt8 := 0x04

/-- A point by its big-endian coordinates. -/
structure Coordinates where
  x : Bytes
  y : Bytes
  deriving DecidableEq, Repr

/-- The parity that a compressed point starts with. -/
def parity? : UInt8 → Option Bool
  | 0x02 => some false
  | 0x03 => some true
  | _ => none

/-- The point with this parity byte and `x`. -/
def decompress : Bytes → Except CodecError Coordinates
  | [] => .error .invalidPoint
  | head :: x =>
      match parity? head with
      | none => .error .invalidPoint
      | some odd =>
          if x.length = coordinateSize then
            match P256.liftX? (Bytes.ofBigEndian x) odd with
            | some y => .ok ⟨x, Bytes.bigEndian coordinateSize y⟩
            | none => .error .invalidPoint
          else .error .invalidPoint

/-- The compressed point in a public key response: length, marker, `x`, `y`.  Only the parity of
`y` is used, which its last byte tells. -/
def compressedOfResponse (payload : Bytes) : Except CodecError Bytes :=
  match payload[2 * coordinateSize + 1]? with
  | none => .error (.malformedPublicKey payload.length)
  | some last =>
      let x := (payload.drop 2).take coordinateSize
      .ok ((if last &&& 1 = 1 then 0x03 else 0x02) :: x)

end Point

end TokenAgent
