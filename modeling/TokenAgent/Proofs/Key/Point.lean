import TokenAgent.Key.Blob
import TokenAgent.Proofs.Bytes
import TokenAgent.Proofs.Curve.Points
import TokenAgent.Proofs.Wire.Fields

/-!
# Points that tokens report

A response to a request for a key is taken for its `x` and for the parity of its `y`.  The key
made of it holds the point of the curve that these two tell.

* `KeyBlob.HoldsPoint`, `KeyBlob.IsPoint` — a key is the wire form of a point of the curve;
* `Point.compressedOfResponse_of_some` — what is taken from a response;
* `Point.decompress_of_some`, `Point.decompress_of_none` — the point that is told by it.
-/

namespace TokenAgent

/-- Three fields and nothing behind them: the type of the key, the curve, and a marked point of
the curve by its coordinates. -/
structure KeyBlob.HoldsPoint (k : KeyBlob) (x y : Bytes) : Prop where
  size : k.size = 104
  fields : Reader.fields 3 k.bytes = .ok
    [Utf8.encode "ecdsa-sha2-nistp256", Utf8.encode "nistp256", 0x04 :: (x ++ y)] []
  length_x : x.length = 32
  length_y : y.length = 32
  onCurve : P256.OnCurve (Bytes.ofBigEndian x) (Bytes.ofBigEndian y)

/-- A key is the wire form of some point of the curve. -/
def KeyBlob.IsPoint (k : KeyBlob) : Prop :=
  ∃ x y, k.HoldsPoint x y

/-- The blob of a point is read back as its three fields if their lengths can be written. -/
theorem KeyBlob.fields_ofCoordinates_iff {name curve : String} {point : Point.Coordinates} :
    Reader.fields 3 (KeyBlob.ofCoordinates name curve point).bytes
        = .ok [Utf8.encode name, Utf8.encode curve, 0x04 :: (point.x ++ point.y)] [] ↔
      (Utf8.encode name).length < 2 ^ 32 ∧ (Utf8.encode curve).length < 2 ^ 32 ∧
        1 + point.x.length + point.y.length < 2 ^ 32 := by
  have hsize : (0x04 :: (point.x ++ point.y) : Bytes).length
      = 1 + point.x.length + point.y.length := by
    rw [List.length_cons, List.length_append]
    omega
  rw [Reader.fields_eq_ok_iff, ← hsize]
  simp [KeyBlob.ofCoordinates, Point.uncompressedMarker]

theorem KeyBlob.holdsPoint_ofCoordinates {x y : Bytes} (hx : x.length = 32) (hy : y.length = 32)
    (hcurve : P256.OnCurve (Bytes.ofBigEndian x) (Bytes.ofBigEndian y)) :
    (KeyBlob.ofCoordinates "ecdsa-sha2-nistp256" "nistp256" ⟨x, y⟩).HoldsPoint x y := by
  have hkeyType : (Utf8.encode "ecdsa-sha2-nistp256").length = 19 := rfl
  have hcurveName : (Utf8.encode "nistp256").length = 8 := rfl
  have hpoint : (Point.uncompressedMarker :: (x ++ y)).length = 65 := by
    rw [List.length_cons, List.length_append, hx, hy]
  -- Three lengths of four bytes, and 19, 8 and 65 bytes behind them.
  refine ⟨?_, ?_, hx, hy, hcurve⟩
  · simp only [KeyBlob.size, KeyBlob.ofCoordinates, Wire.fields_cons, Wire.fields_nil,
      List.length_append, Wire.length_field, hkeyType, hcurveName, hpoint, List.length_nil]
  · rw [KeyBlob.fields_ofCoordinates_iff, hkeyType, hcurveName, hx, hy]
    decide

namespace Point

/-! ## What is taken from a response -/

/-- The first coordinate of a response. -/
def reportedX (payload : Bytes) : Bytes :=
  (payload.drop 2).take 32

/-- The second coordinate of a response. -/
def reportedY (payload : Bytes) : Bytes :=
  (payload.drop 34).take 32

/-- The byte in front of a point that is told by `x` and a parity. -/
def parityByte (odd : Bool) : UInt8 :=
  if odd then 0x03 else 0x02

section Response

variable {payload : Bytes}

theorem length_reportedX (h : 66 ≤ payload.length) : (reportedX payload).length = 32 := by
  rw [reportedX, List.length_take, List.length_drop]
  omega

theorem length_reportedY (h : 66 ≤ payload.length) : (reportedY payload).length = 32 := by
  rw [reportedY, List.length_take, List.length_drop]
  omega

theorem compressedOfResponse_of_short (h : payload.length < 66) :
    compressedOfResponse payload = .error (.malformedPublicKey payload.length) := by
  have hnone : payload[2 * coordinateSize + 1]? = none := by
    rw [List.getElem?_eq_none_iff, coordinateSize]
    omega
  rw [compressedOfResponse, hnone]

variable {last : UInt8}

theorem compressedOfResponse_of_some (h : payload[65]? = some last) :
    ∃ odd : Bool, odd.toNat = last.toNat % 2 ∧
      compressedOfResponse payload = .ok (parityByte odd :: reportedX payload) := by
  have hlast : payload[2 * coordinateSize + 1]? = some last := h
  have hbit : last &&& 1 = 1 ↔ last.toNat % 2 = 1 := by
    rw [← UInt8.toNat_inj, UInt8.toNat_and, UInt8.toNat_one, Nat.and_one_is_mod]
  refine ⟨decide (last &&& 1 = 1), ?_, ?_⟩
  · by_cases hodd : last &&& 1 = 1
    · rw [decide_eq_true hodd, hbit.1 hodd]
      rfl
    · have heven : last.toNat % 2 ≠ 1 := fun h => hodd (hbit.2 h)
      rw [decide_eq_false hodd, Bool.toNat_false]
      omega
  · rw [compressedOfResponse, hlast, parityByte]
    simp only [decide_eq_true_eq]
    rfl

/-- The parity of the second coordinate is the parity of its last byte. -/
theorem parity_reportedY (h : payload[65]? = some last) :
    Bytes.ofBigEndian (reportedY payload) % 2 = last.toNat % 2 := by
  have hlast : (payload.drop 34)[31]? = some last := by
    rw [List.getElem?_drop]
    exact h
  -- All bytes but the last one count for a multiple of 256.
  have hsplit : reportedY payload = (payload.drop 34).take 31 ++ [last] := by
    rw [reportedY, List.take_add_one, hlast, Option.toList_some]
  rw [hsplit, Bytes.ofBigEndian_concat]
  omega

end Response

/-! ## The point that is told by it -/

variable {x : Bytes} {odd : Bool}

theorem parity?_parityByte (odd : Bool) : parity? (parityByte odd) = some odd := by
  cases odd with
  | false => rfl
  | true => rfl

theorem decompress_of_some {y : Nat} (hx : x.length = 32)
    (h : P256.liftX? (Bytes.ofBigEndian x) odd = some y) :
    decompress (parityByte odd :: x) = .ok ⟨x, Bytes.bigEndian 32 y⟩ := by
  simp only [decompress, parity?_parityByte, coordinateSize, if_pos hx, h]

theorem decompress_of_none (hx : x.length = 32)
    (h : P256.liftX? (Bytes.ofBigEndian x) odd = none) :
    decompress (parityByte odd :: x) = .error .invalidPoint := by
  simp only [decompress, parity?_parityByte, coordinateSize, if_pos hx, h]

end Point

end TokenAgent
