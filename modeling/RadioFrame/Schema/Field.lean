import RadioFrame.Schema.Submessage

/-!
The fields of a message: what stands at a tag, how often, and what it means.

Each field has a form. For every form are given

* `Raw`, the values that can stand on the wire, and `blank`, the value of a field never written;
* `readers` and `write`, the layout;
* `Value`, the values that are acceptable, with `check` and `toRaw` between the two.
-/

namespace RadioFrame

/-- One of several exclusive submessages. -/
structure Alternative where
  /-- Its name in text. -/
  name : String
  /-- What it carries. -/
  submessage : Submessage

/-- The forms of a field. -/
inductive Form where
  /-- A simple value, not written when it is zero. -/
  | single (datum : Datum)
  /-- A simple value that may be absent, and is written whenever it is present. -/
  | optional (datum : Datum)
  /-- A list of simple values: numbers in one record, byte strings in a record each. -/
  | list (datum : Datum)
  /-- A submessage that has to be present. -/
  | record (submessage : Submessage)
  /-- A submessage that may be absent. -/
  | optionalRecord (submessage : Submessage)
  /-- A list of submessages. -/
  | records (submessage : Submessage)
  /-- One of several submessages, at consecutive tags; one has to be present. -/
  | choice (alternatives : List Alternative)
  /-- The members of a submessage in the midst of the other fields, at consecutive tags. -/
  | inlined (submessage : Submessage)

/-- A field of a message. -/
structure Field where
  /-- Its name on the wire. -/
  name : String
  /-- Its tag, the first one if it has several. -/
  tag : Nat
  /-- Its form. -/
  form : Form
  /-- Its name in text. -/
  key : String := name

namespace Form

/-! ### Values -/

/-- A field as it stands on the wire. -/
def Raw : Form → Type
  | single d => d.Raw
  | optional d => Option d.Raw
  | list d => List d.Raw
  | record s => Option s.Raw
  | optionalRecord s => Option s.Raw
  | records s => List s.Raw
  | choice as => Option (OneOf fun i : Fin as.length => (as.get i).submessage.Raw)
  | inlined s => s.Raw

/-- A field that has been checked. -/
def Value : Form → Type
  | single d => d.Value
  | optional d => Option d.Value
  | list d => List d.Value
  | record s => s.Value
  | optionalRecord s => Option s.Value
  | records s => List s.Value
  | choice as => OneOf fun i : Fin as.length => (as.get i).submessage.Value
  | inlined s => s.Value

instance decEqRaw : (f : Form) → DecidableEq f.Raw
  | single d => inferInstanceAs (DecidableEq d.Raw)
  | optional d => inferInstanceAs (DecidableEq (Option d.Raw))
  | list d => inferInstanceAs (DecidableEq (List d.Raw))
  | record s => inferInstanceAs (DecidableEq (Option s.Raw))
  | optionalRecord s => inferInstanceAs (DecidableEq (Option s.Raw))
  | records s => inferInstanceAs (DecidableEq (List s.Raw))
  | choice as =>
      inferInstanceAs
        (DecidableEq (Option (OneOf fun i : Fin as.length => (as.get i).submessage.Raw)))
  | inlined s => inferInstanceAs (DecidableEq s.Raw)

instance decEqValue : (f : Form) → DecidableEq f.Value
  | single d => inferInstanceAs (DecidableEq d.Value)
  | optional d => inferInstanceAs (DecidableEq (Option d.Value))
  | list d => inferInstanceAs (DecidableEq (List d.Value))
  | record s => inferInstanceAs (DecidableEq s.Value)
  | optionalRecord s => inferInstanceAs (DecidableEq (Option s.Value))
  | records s => inferInstanceAs (DecidableEq (List s.Value))
  | choice as =>
      inferInstanceAs (DecidableEq (OneOf fun i : Fin as.length => (as.get i).submessage.Value))
  | inlined s => inferInstanceAs (DecidableEq s.Value)

/-- The value of a field that was never written. -/
def blank : (f : Form) → f.Raw
  | single d => d.scalar.zero
  | optional d => (none : Option d.Raw)
  | list d => ([] : List d.Raw)
  | record s => (none : Option s.Raw)
  | optionalRecord s => (none : Option s.Raw)
  | records s => ([] : List s.Raw)
  | choice as => (none : Option (OneOf fun i : Fin as.length => (as.get i).submessage.Raw))
  | inlined s => s.blank

/-- The value of a field of which nothing was said, if there is one: no alternative goes before
the others. -/
def zero? : (f : Form) → Option f.Value
  | single d => some d.zero
  | optional d => some (none : Option d.Value)
  | list d => some ([] : List d.Value)
  | record s => some s.zero
  | optionalRecord s => some (none : Option s.Value)
  | records s => some ([] : List s.Value)
  | choice _ => none
  | inlined s => some s.zero

/-! ### Layout -/

/-- Reads one more value of a list. -/
def readElement (s : Wire.Scalar) (values : List s.Value) (bytes : Bytes) :
    Except Wire.Fault (List s.Value × Bytes) := do
  let (v, rest) ← s.readValue bytes
  .ok (values ++ [v], rest)

/-- Reads a list of simple values: one value in a record of its own, or, of numbers, any count of
them in one record. -/
def listReader (s : Wire.Scalar) (label : String) : Wire.FieldReader (List s.Value) where
  label := label
  read := fun found _ values bytes =>
    if found = .lengthDelimited ∧ s.wireType ≠ .lengthDelimited then
      Wire.readDelimited (readElement s) values bytes
    else do
      Wire.expect s.wireType found
      readElement s values bytes

/-- Writes a list of simple values. -/
def writeList (s : Wire.Scalar) (tag : Nat) (values : List s.Value) : Bytes :=
  if s.wireType = .lengthDelimited then
    values.flatMap fun v => Wire.writeKey tag s.wireType ++ s.write v
  else if values = [] then []
  else Wire.writeDelimited tag (values.flatMap s.write)

/-- The field at a single tag. -/
def readerAt {σ : Type} (own : Nat) (r : Wire.FieldReader σ) : Wire.FieldReaders σ := fun tag =>
  if tag = own then some r else none

/-- Merges a record of a submessage into the value that is there, if any. -/
def submessageReader (s : Submessage) (label : String) : Wire.FieldReader (Option s.Raw) where
  label := label
  read := fun found budget current bytes => do
    let (v, rest) ← s.merge found budget (current.getD s.blank) bytes
    .ok (some v, rest)

/-- Adds a submessage to the list of those read before. -/
def submessagesReader (s : Submessage) (label : String) : Wire.FieldReader (List s.Raw) where
  label := label
  read := fun found budget values bytes => do
    let (v, rest) ← s.merge found budget s.blank bytes
    .ok (values ++ [v], rest)

/-- Which of several alternatives has a tag, the first having the tag `own`. -/
def alternativeOfTag? (as : List Alternative) (own tag : Nat) : Option (Fin as.length) :=
  if h : own ≤ tag ∧ tag - own < as.length then some ⟨tag - own, h.2⟩ else none

/-- Reads a member of an inlined submessage; the member of tag 1 has the tag `own`. -/
def inlinedReaders (label : String) (own : Nat) (m : Member) : Wire.FieldReaders m.Raw :=
  readerAt (own + m.tag - 1) (singleReader m.datum.scalar s!"{label}_{m.name}")

/-- The records that change a field of a given name and tag. -/
def readers (name : String) (own : Nat) : (f : Form) → Wire.FieldReaders f.Raw
  | single d => readerAt own (singleReader d.scalar name)
  | optional d =>
      readerAt (σ := Option d.Raw) own
        { label := name
          read := fun found _ _ bytes => do
            let (v, rest) ← d.scalar.read found bytes
            .ok (some v, rest) }
  | list d => readerAt own (listReader d.scalar name)
  | record s => readerAt own (submessageReader s name)
  | optionalRecord s => readerAt own (submessageReader s name)
  | records s => readerAt own (submessagesReader s name)
  | choice as =>
      Wire.oneOfReader name (alternativeOfTag? as own) (fun i => (as.get i).submessage.blank)
        fun i => (as.get i).submessage.merge
  | inlined s => Wire.rowReader (inlinedReaders name own) s.members

/-- The tags at which a field stands, of which the first is given. -/
def tags (own : Nat) : Form → List Nat
  | choice as => (List.range as.length).map (own + ·)
  | inlined s => s.members.map fun m => own + m.tag - 1
  | single _ | optional _ | list _ | record _ | optionalRecord _ | records _ => [own]

/-- Writes a field of a given tag. -/
def write (own : Nat) : (f : Form) → f.Raw → Bytes
  | single d, v => writeSingle d.scalar own v
  | optional d, v =>
      match (v : Option d.Raw) with
      | none => []
      | some v => Wire.writeKey own d.scalar.wireType ++ d.scalar.write v
  | list d, vs => writeList d.scalar own vs
  | record s, v =>
      match (v : Option s.Raw) with
      | none => []
      | some v => Wire.writeDelimited own (s.write v)
  | optionalRecord s, v =>
      match (v : Option s.Raw) with
      | none => []
      | some v => Wire.writeDelimited own (s.write v)
  | records s, vs => List.flatMap (fun v => Wire.writeDelimited own (s.write v)) vs
  | choice as, v =>
      match (v : Option (OneOf fun i : Fin as.length => (as.get i).submessage.Raw)) with
      | none => []
      | some ⟨i, v⟩ => Wire.writeDelimited (own + i) ((as.get i).submessage.write v)
  | inlined s, v =>
      (Row.toList (fun m v => writeSingle m.datum.scalar (own + m.tag - 1) v)
        (v : s.Raw)).flatten

/-! ### Checking -/

/-- Checks a field of a given name. A flaw inside a submessage is laid to the member that has it. -/
def check (name : String) : (f : Form) → f.Raw → Except Violation f.Value
  | single d, v => (d.check v).mapError fun flaw => ⟨name, flaw⟩
  | optional d, v => tryOption (fun v => (d.check v).mapError fun flaw => ⟨name, flaw⟩) v
  | list d, vs => tryEach (fun v => (d.check v).mapError fun flaw => ⟨name, flaw⟩) vs
  | record s, v =>
      match (v : Option s.Raw) with
      | none => .error ⟨name, .missing⟩
      | some v => s.check v
  | optionalRecord s, v => tryOption s.check v
  | records s, vs => tryEach s.check vs
  | choice as, v =>
      match (v : Option (OneOf fun i : Fin as.length => (as.get i).submessage.Raw)) with
      | none => .error ⟨name, .missing⟩
      | some ⟨i, v⟩ => do
          let w ← (as.get i).submessage.check v
          .ok (⟨i, w⟩ : OneOf fun i : Fin as.length => (as.get i).submessage.Value)
  | inlined s, v => s.check v

/-- The field as it stands on the wire. -/
def toRaw : (f : Form) → f.Value → f.Raw
  | single d, v => d.toRaw v
  | optional d, v => Option.map d.toRaw v
  | list d, vs => List.map d.toRaw vs
  | record s, v => some (s.toRaw v)
  | optionalRecord s, v => Option.map s.toRaw v
  | records s, vs => List.map s.toRaw vs
  | choice as, ⟨i, v⟩ =>
      (some ⟨i, (as.get i).submessage.toRaw v⟩ :
        Option (OneOf fun i : Fin as.length => (as.get i).submessage.Raw))
  | inlined s, v => s.toRaw v

/-! ### Presence -/

/-- What a field holds when it is there. -/
def Content : Form → Type
  | optional d => d.Value
  | optionalRecord s => s.Value
  | f => f.Value

/-- Whether a field can be absent. -/
def isOptional : Form → Bool
  | optional _ => true
  | optionalRecord _ => true
  | _ => false

/-- Whether a field is there. -/
def has : (f : Form) → f.Value → Bool
  | optional d, v => Option.isSome (α := d.Value) v
  | optionalRecord s, v => Option.isSome (α := s.Value) v
  | single _, _ | list _, _ | record _, _ | records _, _ | choice _, _ | inlined _, _ => true

/-- What a field holds: zero when it is absent. Presence is told by `has` alone. -/
def get : (f : Form) → f.Value → f.Content
  | optional d, v => Option.getD (α := d.Value) v d.zero
  | optionalRecord s, v => Option.getD (α := s.Value) v s.zero
  | single _, v => v
  | list _, v => v
  | record _, v => v
  | records _, v => v
  | choice _, v => v
  | inlined _, v => v

/-- The field that is there and holds a value. -/
def put : (f : Form) → f.Content → f.Value
  | optional d, v => (some v : Option d.Value)
  | optionalRecord s, v => (some v : Option s.Value)
  | single _, v => v
  | list _, v => v
  | record _, v => v
  | records _, v => v
  | choice _, v => v
  | inlined _, v => v

end Form

namespace Field

/-- A field as it stands on the wire. -/
abbrev Raw (f : Field) : Type := f.form.Raw

/-- A field that has been checked. -/
abbrev Value (f : Field) : Type := f.form.Value

/-- The value of a field that was never written. -/
def blank (f : Field) : f.Raw := f.form.blank

/-- The tags at which the field stands. -/
def tags (f : Field) : List Nat := f.form.tags f.tag

/-- Every tag of one field is below every tag of the other. -/
abbrev Before (f g : Field) : Prop := f.tag < g.tag ∧ ∀ a ∈ f.tags, ∀ b ∈ g.tags, a < b

/-- The records that change the field. -/
def readers (f : Field) : Wire.FieldReaders f.Raw := f.form.readers f.name f.tag

/-- Writes the field. -/
def write (f : Field) (v : f.Raw) : Bytes := f.form.write f.tag v

/-- Checks the field. -/
def check (f : Field) (v : f.Raw) : Except Violation f.Value := f.form.check f.name v

/-- The field as it stands on the wire. -/
def toRaw (f : Field) (v : f.Value) : f.Raw := f.form.toRaw v

end Field

end RadioFrame
