import RadioFrame.Schema.Field

/-!
Shapes: what a kind of message consists of.

A shape is a list of fields in the order in which they are declared, which is the order of the text
form and of checking; on the wire they stand in ascending order of their tags. A shape can have a
rule beyond those of its single fields. From a shape come

* `Raw`, the bodies that can stand on the wire, with `readers`, `write` and `merge`;
* `Body`, the bodies that are acceptable, with `check` and `toRaw` between the two.
-/

namespace RadioFrame

/-- What a kind of message consists of. -/
structure Shape where
  /-- The name of the kind. -/
  name : String
  /-- What the body is called on the wire. -/
  wireName : String
  /-- Its fields. -/
  fields : List Field
  /-- No two of them share the tags from the first to the last of either. -/
  tags_apart : fields.Pairwise (fun f g => f.Before g ∨ g.Before f) := by decide
  /-- Their tags can be written. -/
  tags_valid : ∀ f ∈ fields, ∀ tag ∈ f.tags, Wire.ValidTag tag := by decide
  /-- What its fields are called together in text. -/
  title : String := name
  /-- What ties several fields to each other: the field that is too long for the others, if any. -/
  rule : Row Field.Value fields → Option (String × Overflow) := fun _ => none

/-! ### The order of the wire -/

/-- Puts a piece before the first of a list that has a higher tag. -/
def insertByTag {α : Type} (piece : Nat × α) : List (Nat × α) → List (Nat × α)
  | [] => [piece]
  | p :: ps => if piece.1 ≤ p.1 then piece :: p :: ps else p :: insertByTag piece ps

/-- Pieces in ascending order of their tags. -/
def sortByTag {α : Type} (pieces : List (Nat × α)) : List (Nat × α) := pieces.foldr insertByTag []

/-- The fields of a row in ascending order of their tags. -/
def writeRow {fields : List Field} (raw : Row Field.Raw fields) : Bytes :=
  (sortByTag (raw.toList fun f v => (f.tag, f.write v))).flatMap (·.2)

/-! ### Bodies -/

/-- The body of a message that has been checked. -/
structure Body (s : Shape) where
  /-- The fields. -/
  row : Row Field.Value s.fields
  /-- They keep the rule of the shape. -/
  lawful : s.rule row = none
  deriving DecidableEq

namespace Shape

variable (s : Shape)

/-- A body as it stands on the wire. -/
abbrev Raw : Type := Row Field.Raw s.fields

/-- The body of which no field was written. -/
def blank : s.Raw := Row.ofFn Field.blank s.fields

/-- The records that change a body. -/
def readers : Wire.FieldReaders s.Raw := Wire.rowReader Field.readers s.fields

/-- The content of a body. -/
def write (raw : s.Raw) : Bytes := writeRow raw

/-- Merges a record of the whole body into a value. -/
def merge (found : Wire.WireType) (budget : Nat) (raw : s.Raw) (bytes : Bytes) :
    Except Wire.Fault (s.Raw × Bytes) :=
  Wire.mergeDelimited s.wireName s.readers found budget raw bytes

end Shape

namespace Body

variable {s : Shape}

/-- The body of given fields, if they keep the rule of the shape. -/
def ofRow (s : Shape) (row : Row Field.Value s.fields) : Except (String × Overflow) (Body s) :=
  match h : s.rule row with
  | none => .ok ⟨row, h⟩
  | some e => .error e

/-- Checks a body: its fields in the order of declaration, then the rule of the shape. -/
def check (s : Shape) (raw : s.Raw) : Except Violation (Body s) := do
  let row ← raw.tryMap Field.check
  (ofRow s row).mapError fun (field, overflow) => ⟨field, .overflow overflow⟩

/-- The body as it stands on the wire. -/
def toRaw (b : Body s) : s.Raw := b.row.map Field.toRaw

/-- The body of which nothing was said, if there is one. -/
def zero? (s : Shape) : Option (Body s) := do
  let row ← Row.ofFn? (fun f : Field => f.form.zero?) s.fields
  (ofRow s row).toOption

/-- Whether the field at a place is there. -/
def has (b : Body s) (k : Fin s.fields.length) : Bool := s.fields[k].form.has (b.row.get k)

/-- What the field at a place holds, zero when it is absent. -/
def get (b : Body s) (k : Fin s.fields.length) : s.fields[k].form.Content :=
  s.fields[k].form.get (b.row.get k)

/-- The body whose field at a place is there and holds a value. -/
def put (b : Body s) (k : Fin s.fields.length) (v : s.fields[k].form.Content) :
    Except (String × Overflow) (Body s) :=
  ofRow s (b.row.set k (s.fields[k].form.put v))

end Body

end RadioFrame
