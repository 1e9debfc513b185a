import TokenAgent.Proofs.Key.Point
import TokenAgent.Proofs.Runs
import TokenAgent.Proofs.Text.Base64

/-!
# Lines of an authorized-keys file

A line is a key type, a key in base64 and a comment.  It is cut at its first two spaces, so the
comment may hold spaces, and the key type must not.

* `KeyLine.cut?` — the three parts of a line;
* `KeyBlob.keyType_ofCoordinates` — the key type is read back from the key;
* `KeyBlob.line_carries_key` — the parts of a written line tell the key and the comment.
-/

namespace TokenAgent

/-- A line of an authorized-keys file, cut into its parts. -/
structure KeyLine where
  keyType : String
  key : String
  comment : String
  deriving DecidableEq, Repr

namespace KeyLine

/-- The text in front of the first space, and the text behind it. -/
def cutSpace? (s : List Char) : Option (List Char × List Char) :=
  match s.dropWhile (· != ' ') with
  | [] => none
  | _ :: rest => some (s.takeWhile (· != ' '), rest)

/-- Cut a line at its first two spaces. -/
def cut? (line : String) : Option KeyLine := do
  let (keyType, behind) ← cutSpace? line.toList
  let (key, comment) ← cutSpace? behind
  return ⟨String.ofList keyType, String.ofList key, String.ofList comment⟩

theorem cutSpace?_append {front : List Char} (h : ' ' ∉ front) (rest : List Char) :
    cutSpace? (front ++ ' ' :: rest) = some (front, rest) := by
  have hfront : ∀ c ∈ front, (c != ' ') = true := by
    intro c hc
    rw [bne_iff_ne]
    rintro rfl
    exact h hc
  have hstops : Stops (· != ' ') (' ' :: rest) := by
    intro c hc
    cases hc
    rfl
  rw [cutSpace?, dropWhile_append_of_stops hfront hstops, takeWhile_append_of_stops hfront hstops]

theorem cut?_append {keyType key : String} (hkeyType : ' ' ∉ keyType.toList)
    (hkey : ' ' ∉ key.toList) (comment : String) :
    cut? (keyType ++ " " ++ key ++ " " ++ comment) = some ⟨keyType, key, comment⟩ := by
  have hline : (keyType ++ " " ++ key ++ " " ++ comment).toList
      = keyType.toList ++ ' ' :: (key.toList ++ ' ' :: comment.toList) := by
    simp [String.toList_append]
  rw [cut?, hline, cutSpace?_append hkeyType]
  simp only [Option.bind_eq_bind, Option.bind_some, cutSpace?_append hkey, String.ofList_toList]
  rfl

end KeyLine

namespace KeyBlob

variable {name curve comment : String} {point : Point.Coordinates}

theorem keyType_ofCoordinates (hname : (Utf8.encode name).length < 2 ^ 32) (curve : String)
    (point : Point.Coordinates) : (ofCoordinates name curve point).keyType = name := by
  have hfield : Reader.field (ofCoordinates name curve point).bytes
      = .ok (Utf8.encode name)
        (Wire.fields [Utf8.encode curve, Point.uncompressedMarker :: (point.x ++ point.y)]) :=
    Reader.field_eq_ok_iff.2 ⟨hname, rfl⟩
  rw [keyType, hfield]
  simp only [Utf8.decode?_encode, Option.getD_some]

/-- The parts of the line of a key. -/
theorem cut?_line (hspace : ' ' ∉ name.toList) (hname : (Utf8.encode name).length < 2 ^ 32)
    (curve : String) (point : Point.Coordinates) (comment : String) :
    KeyLine.cut? ((ofCoordinates name curve point).line comment)
      = some ⟨name, Base64.encode (ofCoordinates name curve point).bytes, comment⟩ := by
  have hkey := Base64.not_mem_encode (c := ' ') (by decide) (by decide)
    (ofCoordinates name curve point).bytes
  rw [line, keyType_ofCoordinates hname]
  exact KeyLine.cut?_append hspace hkey comment

/-- A line tells its key and its comment. -/
theorem line_inj {name' curve' comment' : String} {point' : Point.Coordinates}
    (hspace : ' ' ∉ name.toList) (hname : (Utf8.encode name).length < 2 ^ 32)
    (hspace' : ' ' ∉ name'.toList) (hname' : (Utf8.encode name').length < 2 ^ 32)
    (h : (ofCoordinates name curve point).line comment
      = (ofCoordinates name' curve' point').line comment') :
    ofCoordinates name curve point = ofCoordinates name' curve' point' ∧ comment = comment' := by
  have hparts := cut?_line hspace hname curve point comment
  rw [h, cut?_line hspace' hname' curve' point' comment', Option.some.injEq,
    KeyLine.mk.injEq] at hparts
  rcases hparts with ⟨_, htext, hcomment⟩
  have hbytes := Base64.encode_injective htext.symm
  exact ⟨congrArg KeyBlob.mk hbytes, hcomment.symm⟩

/-- Where the name of the key type holds no space, the line of a key is cut into this name, a
padded text in base64 that is read as the bytes of the key, as no other text is, and the comment
as it was.  The bytes of a key of any coordinates are read back as three fields, as long as their
lengths can be written.  So a line tells the key and the comment that it was made of. -/
theorem line_carries_key :
    (∀ (name curve comment : String) (point : Point.Coordinates),
      ' ' ∉ name.toList → (Utf8.encode name).length < 2 ^ 32 →
      ∃ text, KeyLine.cut? ((ofCoordinates name curve point).line comment)
          = some ⟨name, text, comment⟩ ∧
        text.length = 4 * (((ofCoordinates name curve point).size + 2) / 3) ∧
        ∀ text', Base64.decode? text' = some (ofCoordinates name curve point).bytes ↔
          text' = text) ∧
    (∀ (name curve : String) (point : Point.Coordinates),
      Reader.fields 3 (ofCoordinates name curve point).bytes
          = .ok [Utf8.encode name, Utf8.encode curve, 0x04 :: (point.x ++ point.y)] [] ↔
        (Utf8.encode name).length < 2 ^ 32 ∧ (Utf8.encode curve).length < 2 ^ 32 ∧
          1 + point.x.length + point.y.length < 2 ^ 32) ∧
    ∀ (name name' curve curve' comment comment' : String) (point point' : Point.Coordinates),
      ' ' ∉ name.toList → (Utf8.encode name).length < 2 ^ 32 →
      ' ' ∉ name'.toList → (Utf8.encode name').length < 2 ^ 32 →
      ((ofCoordinates name curve point).line comment
          = (ofCoordinates name' curve' point').line comment' ↔
        ofCoordinates name curve point = ofCoordinates name' curve' point' ∧
          comment = comment') := by
  refine ⟨?_, fun name curve point => fields_ofCoordinates_iff, ?_⟩
  · intro name curve comment point hspace hname
    refine ⟨_, cut?_line hspace hname curve point comment, Base64.length_encode _, ?_⟩
    intro text'
    exact Base64.decode?_eq_some_iff
  · intro name name' curve curve' comment comment' point point' hspace hname hspace' hname'
    constructor
    · exact line_inj hspace hname hspace' hname'
    · rintro ⟨hkey, hcomment⟩
      rw [hkey, hcomment]

end KeyBlob

end TokenAgent
