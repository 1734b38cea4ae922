import RadioFrame.Row
import RadioFrame.Wire.Skip
import RadioFrame.Wire.Scalar

/-!
Reading messages: sequences of records, each a key and a value.

A message of values `σ` is described by its name and by a `FieldReader σ` for every tag it knows;
a reader says how one more record of the field changes the value read so far. Records of unknown
tags are passed over. From this come

* `merge`: all records of a byte string, in order, into a value;
* `mergeDelimited`: a message inside a message, a length in front. Its records are read until the
  position reaches or passes the stated end; passing it is a fault of the field that holds it;
* `rowReader` and `oneOfReader`: messages of several fields, and groups of exclusive fields.
-/

namespace RadioFrame.Wire

/-- How deep messages and groups may be nested. -/
def maxDepth : Nat := 100

/-- How a record of one field changes a value. -/
structure FieldReader (σ : Type) where
  /-- The field's name, for faults. -/
  label : String
  /-- Reads the value of a record whose key had the given layout, within a budget of nesting. -/
  read : WireType → Nat → σ → Bytes → Except Fault (σ × Bytes)

/-- The fields that a message knows, by their tags. -/
abbrev FieldReaders (σ : Type) := Nat → Option (FieldReader σ)

/-! ### Records in sequence -/

/-- Reads one record into a value. -/
def mergeRecord {σ : Type} (name : String) (fields : FieldReaders σ) (budget : Nat) (s : σ)
    (bytes : Bytes) : Except Fault (σ × Bytes) := do
  let (key, rest) ← readKey bytes
  match fields key.tag with
  | some field => (field.read key.wireType budget s rest).mapError (.within name field.label)
  | none => do
      let rest ← skip budget key rest
      .ok (s, rest)

/-- Repeats a step until no more than `limit` bytes are left. Every step consumes a byte, so that no
more steps are needed than there are bytes. -/
def readUntil {σ : Type} (limit : Nat) (step : σ → Bytes → Except Fault (σ × Bytes)) :
    Nat → σ → Bytes → Except Fault (σ × Bytes)
  | 0, s, bytes => .ok (s, bytes)
  | fuel + 1, s, bytes =>
      if bytes.length ≤ limit then .ok (s, bytes)
      else do
        let (s, rest) ← step s bytes
        readUntil limit step fuel s rest

/-- Reads a length and then repeats a step until the bytes of that length are used up. The length is
held against all bytes that are left; a step may run past the end, which is noticed after it. -/
def readDelimited {σ : Type} (step : σ → Bytes → Except Fault (σ × Bytes)) (s : σ) (bytes : Bytes) :
    Except Fault (σ × Bytes) := do
  let (n, content) ← readNumber bytes
  if content.length < n then .error (.plain .underflow)
  else do
    let limit := content.length - n
    let (s, rest) ← readUntil limit step content.length s content
    if rest.length = limit then .ok (s, rest) else .error (.plain .overrun)

/-- Reads all records of a byte string into a value. -/
def merge {σ : Type} (name : String) (fields : FieldReaders σ) (s : σ) (bytes : Bytes) :
    Except Fault σ := do
  let (s, _) ← readUntil 0 (mergeRecord name fields maxDepth) bytes.length s bytes
  .ok s

/-- Reads a message inside a message into a value. Its layout is looked at first, then the budget,
then its length. -/
def mergeDelimited {σ : Type} (name : String) (fields : FieldReaders σ) (found : WireType)
    (budget : Nat) (s : σ) (bytes : Bytes) : Except Fault (σ × Bytes) := do
  expect .lengthDelimited found
  match budget with
  | 0 => .error (.plain .tooDeep)
  | budget + 1 => readDelimited (mergeRecord name fields budget) s bytes

/-! ### Several fields -/

namespace FieldReader

variable {α β : Type}

/-- A reader of the first component of a pair. -/
def onFirst (r : FieldReader α) : FieldReader (α × β) where
  label := r.label
  read := fun found budget s bytes => do
    let (a, rest) ← r.read found budget s.1 bytes
    .ok ((a, s.2), rest)

/-- A reader of the second component of a pair. -/
def onSecond (r : FieldReader β) : FieldReader (α × β) where
  label := r.label
  read := fun found budget s bytes => do
    let (b, rest) ← r.read found budget s.2 bytes
    .ok ((s.1, b), rest)

end FieldReader

/-- The readers of a row: each entry knows its own tags, and the first that knows a tag reads it. -/
def rowReader {ι : Type} {V : ι → Type} (entry : ∀ i, FieldReaders (V i)) :
    (is : List ι) → FieldReaders (Row V is)
  | [], _ => none
  | i :: is, tag =>
      match entry i tag with
      | some r => some r.onFirst
      | none => (rowReader entry is tag).map .onSecond

/-- The readers of a group of exclusive fields, each a message. A record of the field that is set is
merged into its value; a record of another field replaces what was set. -/
def oneOfReader {ι : Type} [DecidableEq ι] {V : ι → Type} (label : String)
    (ofTag? : Nat → Option ι) (blank : ∀ i, V i)
    (read : ∀ i, WireType → Nat → V i → Bytes → Except Fault (V i × Bytes)) :
    FieldReaders (Option (OneOf V)) := fun tag =>
  (ofTag? tag).map fun i =>
    { label
      read := fun found budget current bytes => do
        let (v, rest) ← read i found budget (OneOf.valueAt blank current i) bytes
        .ok (some ⟨i, v⟩, rest) }

/-! ### Writing -/

/-- Writes a record whose value is a message or byte string. -/
def writeDelimited (tag : Nat) (content : Bytes) : Bytes :=
  writeKey tag .lengthDelimited ++ writeSized content

end RadioFrame.Wire
