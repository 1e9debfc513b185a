import TokenAgent.Proofs.Checked.Access
import TokenAgent.Proofs.Identity.DerivationPath
import TokenAgent.Proofs.Key.Point
import TokenAgent.Token

/-!
# Payloads with checked accesses

The parts of what is sent to a token and of what it answers: the components of a path, payload
and status of a response, the coordinates of a point, the integers of a signature.  Whatever the
token answers, taking it apart reaches out of range nowhere.
-/

namespace TokenAgent

namespace Checked

open Running

/-! ## Paths -/

/-- A component of a path, from the first four bytes of a block. -/
def component? (block : Bytes) : Option UInt32 := do
  let b₀ ← block[0]?
  let b₁ ← block[1]?
  let b₂ ← block[2]?
  let b₃ ← block[3]?
  return DerivationPath.hardened ||| UInt32.ofNat (Bytes.ofLittleEndian [b₀, b₁, b₂, b₃])

/-- The path of a canonical text.  Of the blocks of its digest only those are used that are
full. -/
def path? (canonical : String) (purpose : Purpose) : Option DerivationPath := do
  let blocks := (Bytes.chunks 4 (DerivationPath.digestOf canonical)).filter (·.length = 4)
  let words ← (blocks.take DerivationPath.digestComponents).mapM component?
  return ⟨(DerivationPath.hardened ||| purpose.number) :: words⟩

theorem component?_eq {block : Bytes} (h : block.length = 4) :
    component? block
      = some (DerivationPath.hardened ||| UInt32.ofNat (Bytes.ofLittleEndian block)) := by
  rcases List.length_eq_four.1 h with ⟨b₀, b₁, b₂, b₃, rfl⟩
  rfl

theorem mapM_component?_eq {blocks : List Bytes} (h : ∀ block ∈ blocks, block.length = 4) :
    blocks.mapM component? = some (blocks.map fun block =>
      DerivationPath.hardened ||| UInt32.ofNat (Bytes.ofLittleEndian block)) := by
  induction blocks with
  | nil => rfl
  | cons block rest ih =>
      rw [List.mapM_cons, component?_eq (h block List.mem_cons_self),
        ih fun b hmem => h b (List.mem_cons_of_mem block hmem)]
      rfl

/-- A digest has 32 bytes, so each of its blocks is full. -/
theorem length_of_mem_chunks_digest {canonical : String} {block : Bytes}
    (h : block ∈ Bytes.chunks 4 (DerivationPath.digestOf canonical)) : block.length = 4 := by
  refine Bytes.length_of_mem_chunks_of_dvd (by decide) ?_ h
  rw [DerivationPath.digestOf, Sha256.length_digest]
  decide

theorem path?_eq (canonical : String) (purpose : Purpose) :
    path? canonical purpose = some (DerivationPath.ofCanonical canonical purpose) := by
  have hall : (Bytes.chunks 4 (DerivationPath.digestOf canonical)).filter (·.length = 4)
      = Bytes.chunks 4 (DerivationPath.digestOf canonical) := by
    refine List.filter_eq_self.2 fun block hmem => ?_
    exact decide_eq_true (length_of_mem_chunks_digest hmem)
  have hfull : ∀ block ∈ (Bytes.chunks 4 (DerivationPath.digestOf canonical)).take
      DerivationPath.digestComponents, block.length = 4 :=
    fun block hmem => length_of_mem_chunks_digest (List.mem_of_mem_take hmem)
  rw [path?, hall]
  change (((Bytes.chunks 4 (DerivationPath.digestOf canonical)).take
    DerivationPath.digestComponents).mapM component?).bind _ = _
  rw [mapM_component?_eq hfull]
  rfl

/-! ## Responses -/

/-- Payload and status of a message: the status is its last two bytes. -/
def response? (message : Bytes) : Option (Except FramingError Response) :=
  if message.length < 2 then some (.error (.missingStatus message.length))
  else do
    let split ← sub? message.length 2
    let high ← message[split]?
    let low ← message[split + 1]?
    let payload ← slice? message 0 split
    return .ok ⟨payload, ⟨UInt16.ofNat (Bytes.ofBigEndian [high, low])⟩⟩

theorem response?_eq (message : Bytes) :
    response? message = some (Response.ofMessage message) := by
  rw [response?, Response.ofMessage]
  by_cases hshort : message.length < 2
  · rw [if_pos hshort, if_pos hshort]
  · have hsize : 2 ≤ message.length := Nat.le_of_not_lt hshort
    have hend : (message.drop (message.length - 2)).length = 2 := by
      rw [List.length_drop]
      omega
    rcases List.length_eq_two.1 hend with ⟨high, low, hlast⟩
    have hhigh : message[message.length - 2]? = some high := by
      have hget := congrArg (fun bs => bs[0]?) hlast
      rwa [List.getElem?_drop] at hget
    have hlow : message[message.length - 2 + 1]? = some low := by
      have hget := congrArg (fun bs => bs[1]?) hlast
      rwa [List.getElem?_drop] at hget
    rw [if_neg hshort, if_neg hshort, sub?_of_le hsize]
    simp only [Option.bind_eq_bind, Option.bind_some, hhigh, hlow, hlast,
      slice?_front (Nat.sub_le message.length 2)]
    rfl

/-! ## Points -/

/-- The compressed point in a public key response. -/
def compressed? (payload : Bytes) : Option (Except CodecError Bytes) :=
  if payload.length < 2 + 2 * Point.coordinateSize then
    some (.error (.malformedPublicKey payload.length))
  else do
    let last ← payload[2 * Point.coordinateSize + 1]?
    let head : UInt8 := if last &&& 1 ≠ 0 then 0x03 else 0x02
    let point ← overwrite? (List.replicate (1 + Point.coordinateSize) 0) 0 1 [head]
    let x ← slice? payload 2 (2 + Point.coordinateSize)
    return .ok (← overwrite? point 1 (1 + Point.coordinateSize) x)

/-- The coordinates of a compressed point, each copied into a buffer of its size. -/
def decompress? (compressed : Bytes) : Option (Except CodecError Point.Coordinates) :=
  if compressed.length ≠ 1 + Point.coordinateSize then some (.error .invalidPoint)
  else do
    match Point.parity? (← compressed[0]?) with
    | none => return .error .invalidPoint
    | some odd =>
        let blank := List.replicate Point.coordinateSize 0
        match P256.liftX? (Bytes.ofBigEndian compressed.tail) odd with
        | none => return .error .invalidPoint
        | some y =>
            let x ← overwrite? blank 0 Point.coordinateSize compressed.tail
            let y ← overwrite? blank 0 Point.coordinateSize
              (Bytes.bigEndian Point.coordinateSize y)
            return .ok ⟨x, y⟩

theorem compressed?_eq (payload : Bytes) :
    compressed? payload = some (Point.compressedOfResponse payload) := by
  rw [compressed?]
  by_cases hshort : payload.length < 2 + 2 * Point.coordinateSize
  · rw [if_pos hshort, Point.compressedOfResponse_of_short hshort]
  · have hsize : 66 ≤ payload.length := Nat.le_of_not_lt hshort
    rw [if_neg hshort, Point.compressedOfResponse]
    cases hlast : payload[2 * Point.coordinateSize + 1]? with
    | none =>
        have hend := List.getElem?_eq_none_iff.1 hlast
        exact absurd hsize (Nat.not_le.2 (Nat.lt_succ_of_le hend))
    | some last =>
        have hbit : last &&& 1 ≠ 0 ↔ last &&& 1 = 1 := by
          rw [ne_eq, ← UInt8.toNat_inj, ← UInt8.toNat_inj, UInt8.toNat_and, UInt8.toNat_one,
            UInt8.toNat_zero, Nat.and_one_is_mod]
          omega
        have hx : ((payload.drop 2).take Point.coordinateSize).length = Point.coordinateSize :=
          Point.length_reportedX hsize
        have hblock : slice? payload 2 (2 + Point.coordinateSize)
            = some ((payload.drop 2).take Point.coordinateSize) :=
          slice?_block (Nat.le_trans (by decide) hsize)
        have hhead : ∀ head : UInt8,
            overwrite? (List.replicate (1 + Point.coordinateSize) 0) 0 1 [head]
              = some ([head] ++ List.replicate Point.coordinateSize 0) := by
          intro head
          have hone : [head].length ≤ 1 + Point.coordinateSize :=
            Nat.le_add_right 1 Point.coordinateSize
          exact overwrite?_zeros [] hone
        have hpoint : ∀ head : UInt8,
            overwrite? ([head] ++ List.replicate Point.coordinateSize 0) 1
                (1 + Point.coordinateSize) ((payload.drop 2).take Point.coordinateSize)
              = some (head :: (payload.drop 2).take Point.coordinateSize) :=
          fun head => overwrite?_rest [head] hx
        simp only [Option.bind_eq_bind, Option.bind_some, hbit, hhead, hblock, hpoint]
        rfl

theorem decompress?_eq (compressed : Bytes) :
    decompress? compressed = some (Point.decompress compressed) := by
  cases compressed with
  | nil => rfl
  | cons head x =>
      rw [decompress?, Point.decompress]
      by_cases hsize : x.length = Point.coordinateSize
      · have hlength : ¬ (head :: x).length ≠ 1 + Point.coordinateSize := by
          rw [List.length_cons, hsize, Nat.add_comm]
          exact fun h => h rfl
        rw [if_neg hlength, List.getElem?_cons_zero, Option.bind_eq_bind, Option.bind_some]
        cases Point.parity? head with
        | none => rfl
        | some odd =>
            simp only [List.tail_cons, if_pos hsize]
            cases P256.liftX? (Bytes.ofBigEndian x) odd with
            | none => rfl
            | some y =>
                simp only [overwrite?_blank hsize, overwrite?_blank (Bytes.length_bigEndian _ y),
                  Option.bind_eq_bind, Option.bind_some]
                rfl
      · have hlength : (head :: x).length ≠ 1 + Point.coordinateSize := by
          rw [List.length_cons, Nat.add_comm]
          exact fun h => hsize (Nat.add_left_cancel h)
        rw [if_pos hlength]
        cases Point.parity? head with
        | none => rfl
        | some odd => simp only [if_neg hsize]

/-! ## Signatures -/

/-- Drop one leading zero, if there is one. -/
def dropSignByte? (s : Bytes) : Option Bytes :=
  if s.head? = some 0 then slice? s 1 s.length else some s

/-- The two integers of a token's signature. -/
def readIntegers : EStateM (Stop Shortfall) Bytes (Bytes × Bytes) := do
  let _ ← take Signature.rLengthOffset
  let r ← take (← byte).toNat
  let _ ← take 1
  let s ← take (← byte).toNat
  return (r, ← access (dropSignByte? s))

/-- The SSH form of a token's signature. -/
def signature? (keyType : String) (payload : Bytes) : Option (Except CodecError Signature) :=
  (outcome? (readIntegers payload)).map fun
    | .ok (r, s) => .ok ⟨Wire.fields [Utf8.encode keyType, Wire.fields [r, s]]⟩
    | .error missing => .error (.malformedSignature missing)

theorem dropSignByte?_eq (s : Bytes) : dropSignByte? s = some (Signature.dropSignByte s) := by
  cases s with
  | nil => rfl
  | cons b rest =>
      rw [dropSignByte?, List.head?_cons]
      by_cases hzero : b = 0
      · subst hzero
        exact slice?_rest (Nat.succ_pos rest.length)
      · rw [if_neg fun h => hzero (Option.some.inj h), Signature.dropSignByte]
        intro rest' h
        exact hzero (List.cons.inj h).1

theorem readIntegers_eq : readIntegers = lift Signature.readIntegers := by
  simp only [readIntegers, Signature.readIntegers, Reader.skip, take_eq, byte_eq, lift_bind,
    lift_pure, bind_assoc, pure_bind, dropSignByte?_eq, access_some]

theorem signature?_eq (keyType : String) (payload : Bytes) :
    signature? keyType payload = some (Signature.ofResponse keyType payload) := by
  rw [signature?, readIntegers_eq, Signature.ofResponse]
  cases hread : Signature.readIntegers payload with
  | ok integers rest =>
      rw [outcome?_ok hread]
      rfl
  | error missing rest =>
      rw [outcome?_error hread]
      rfl

end Checked

end TokenAgent
