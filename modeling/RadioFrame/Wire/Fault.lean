/-!
Why bytes cannot be read as a message, and where in the message the reading stood.
-/

namespace RadioFrame.Wire

/-- How the value of a field is laid out. -/
inductive WireType where
  | varint
  | sixtyFourBit
  | lengthDelimited
  | startGroup
  | endGroup
  | thirtyTwoBit
  deriving DecidableEq, Repr

namespace WireType

/-- The number of a layout in a key. -/
def code : WireType → Nat
  | varint => 0
  | sixtyFourBit => 1
  | lengthDelimited => 2
  | startGroup => 3
  | endGroup => 4
  | thirtyTwoBit => 5

/-- The layout of a number. -/
def ofCode? : Nat → Option WireType
  | 0 => some varint
  | 1 => some sixtyFourBit
  | 2 => some lengthDelimited
  | 3 => some startGroup
  | 4 => some endGroup
  | 5 => some thirtyTwoBit
  | _ => none

/-- What messages call a layout. -/
def name : WireType → String
  | varint => "Varint"
  | sixtyFourBit => "SixtyFourBit"
  | lengthDelimited => "LengthDelimited"
  | startGroup => "StartGroup"
  | endGroup => "EndGroup"
  | thirtyTwoBit => "ThirtyTwoBit"

end WireType

/-- What is wrong with the bytes. -/
inductive Cause where
  /-- A number is cut short or too long. -/
  | badVarint
  /-- A key is above 32 bits. -/
  | badKey (key : Nat)
  /-- A key names no layout. -/
  | badWireType (code : Nat)
  /-- A key has the tag zero. -/
  | zeroTag
  /-- A known field has a layout that is not its own. -/
  | wrongWireType (found expected : WireType)
  /-- A value is longer than the bytes that are left. -/
  | underflow
  /-- The content of a message or list ran past its stated end. -/
  | overrun
  /-- A group ends that is not open, or with another tag than it began with. -/
  | strayEndGroup
  /-- Messages or groups are nested too deep. -/
  | tooDeep
  deriving DecidableEq, Repr

/-- The wording of a cause. -/
def Cause.message : Cause → String
  | badVarint => "invalid varint"
  | badKey key => s!"invalid key value: {key}"
  | badWireType code => s!"invalid wire type value: {code}"
  | zeroTag => "invalid tag value: 0"
  | wrongWireType found expected =>
      s!"invalid wire type: {found.name} (expected {expected.name})"
  | underflow => "buffer underflow"
  | overrun => "delimited length exceeded"
  | strayEndGroup => "unexpected end group tag"
  | tooDeep => "recursion limit reached"

/-- A cause with the known fields that were being read, innermost first. -/
structure Fault where
  /-- The fields, each with the name of its message. -/
  path : List (String × String)
  /-- What is wrong. -/
  cause : Cause
  deriving DecidableEq, Repr

namespace Fault

/-- A fault outside of any known field. -/
def plain (cause : Cause) : Fault := ⟨[], cause⟩

/-- The fault as seen from the message around it. -/
def within (message field : String) (f : Fault) : Fault := ⟨f.path ++ [(message, field)], f.cause⟩

/-- The fault in words, from the innermost field outwards. -/
def text (f : Fault) : String :=
  "failed to decode Protobuf message: " ++
    String.join (f.path.map fun (message, field) => s!"{message}.{field}: ") ++ f.cause.message

end Fault

end RadioFrame.Wire
