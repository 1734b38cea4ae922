import RadioFrame.Schema.Datum
import RadioFrame.Wire.Message

/-!
Messages of simple values: the messages that stand inside others.

A submessage is a list of members, each a datum with a name and a tag. From the list come its raw
values, its checked values, how it is read and written, and how it is checked: member by member, in
the order of the list.
-/

namespace RadioFrame

/-- A simple value with a name and a place in its message. -/
structure Member where
  /-- Its name. -/
  name : String
  /-- Its tag. -/
  tag : Nat
  /-- What it means. -/
  datum : Datum

/-- A message of simple values. -/
structure Submessage where
  /-- What text that should hold it is said to be expected to be. -/
  title : String
  /-- What the message is called on the wire. -/
  wireName : String
  /-- Its members. -/
  members : List Member
  /-- They stand in ascending order of their tags. -/
  tags_ascending : members.Pairwise (·.tag < ·.tag) := by decide
  /-- Their tags can be written. -/
  tags_valid : ∀ m ∈ members, Wire.ValidTag m.tag := by decide

/-- Writes a simple value with its key; a zero value is left out. -/
def writeSingle (s : Wire.Scalar) (tag : Nat) (v : s.Value) : Bytes :=
  if v = s.zero then [] else Wire.writeKey tag s.wireType ++ s.write v

/-- Reads a simple value in place of the one before. -/
def singleReader (s : Wire.Scalar) (label : String) : Wire.FieldReader s.Value where
  label := label
  read := fun found _ _ bytes => s.read found bytes

namespace Member

/-- A member as it stands on the wire. -/
abbrev Raw (m : Member) : Type := m.datum.Raw

/-- A member that has been checked. -/
abbrev Value (m : Member) : Type := m.datum.Value

/-- Checks a member; the flaw is laid to its name. -/
def check (m : Member) (raw : m.Raw) : Except Violation m.Value :=
  (m.datum.check raw).mapError fun flaw => ⟨m.name, flaw⟩

/-- Reads a member at its own tag. -/
def readers (m : Member) : Wire.FieldReaders m.Raw := fun tag =>
  if tag = m.tag then some (singleReader m.datum.scalar m.name) else none

end Member

namespace Submessage

/-- A submessage as it stands on the wire. -/
abbrev Raw (s : Submessage) : Type := Row Member.Raw s.members

/-- A submessage that has been checked. -/
abbrev Value (s : Submessage) : Type := Row Member.Value s.members

variable (s : Submessage)

/-- Every member zero, on the wire. -/
def blank : s.Raw := Row.ofFn (fun m => m.datum.scalar.zero) s.members

/-- Every member zero. -/
def zero : s.Value := Row.ofFn (fun m => m.datum.zero) s.members

/-- Checks the members in order. -/
def check (raw : s.Raw) : Except Violation s.Value := raw.tryMap Member.check

/-- The values as they stand on the wire. -/
def toRaw (value : s.Value) : s.Raw := value.map fun m => m.datum.toRaw

/-- The content of the message. -/
def write (raw : s.Raw) : Bytes :=
  (raw.toList fun m v => writeSingle m.datum.scalar m.tag v).flatten

/-- Merges a record of the message into a value. -/
def merge (found : Wire.WireType) (budget : Nat) (raw : s.Raw) (bytes : Bytes) :
    Except Wire.Fault (s.Raw × Bytes) :=
  Wire.mergeDelimited s.wireName (Wire.rowReader Member.readers s.members) found budget raw bytes

end Submessage

end RadioFrame
