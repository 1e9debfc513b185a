import TokenAgent.Wire.Reader

/-!
# Length-prefixed fields

The wire form of keys, signatures and agent messages is built from fields: four bytes of
length, most significant first, followed by that many bytes.  Lengths are written modulo
`2 ^ 32`.

* `Wire.field` — one field;
* `Wire.fields` — several, one after the other;
* `Wire.envelope` — a whole message, which is a field too.
-/

namespace TokenAgent

namespace Wire

/-- The wire form of `data`: its length, then its bytes. -/
def field (data : Bytes) : Bytes :=
  Bytes.bigEndian 4 data.length ++ data

/-- The wire form of a list of fields. -/
def fields (items : List Bytes) : Bytes :=
  items.flatMap field

/-- A message under its own length. -/
def envelope (body : Bytes) : Bytes :=
  field body

@[simp] theorem length_field (data : Bytes) : (field data).length = 4 + data.length := by
  simp [field]

@[simp] theorem fields_nil : fields [] = [] := rfl

@[simp] theorem fields_cons (data : Bytes) (items : List Bytes) :
    fields (data :: items) = field data ++ fields items := rfl

end Wire

end TokenAgent
