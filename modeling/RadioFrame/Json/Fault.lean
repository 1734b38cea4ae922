import RadioFrame.Json.Numeral
import RadioFrame.Text.Hex
import RadioFrame.Value.Address

/-!
Why JSON text cannot be read as a value of some type.
-/

namespace RadioFrame.Json

/-- What was found where something else was expected. -/
inductive Found where
  | null
  | bool (b : Bool)
  | number (n : Number)
  | text (s : String)
  | sequence
  | map
  /-- The bare name of a variant that carries something. -/
  | bareVariant
  deriving Repr

/-- What was found, in words. -/
def Found.words : Found → String
  | null => "null"
  | bool b => s!"boolean `{b}`"
  | number (.integer n) => s!"integer `{n}`"
  | number (.real x) => "floating point `" ++ String.ofList (shortestText realStyle x) ++ "`"
  | text s => "string " ++ String.ofList (Text.quoted s.toList)
  | sequence => "sequence"
  | map => "map"
  | bareVariant => "unit variant"

/-- What is wrong with text that is JSON. -/
inductive Complaint where
  /-- An object lacks a member. -/
  | missingField (name : String)
  /-- An object has a member twice. -/
  | duplicateField (name : String)
  /-- A name is none of those that are possible. -/
  | unknownVariant (name : String) (expected : List String)
  /-- Something of another type was expected. -/
  | wrongType (found : Found) (expected : String)
  /-- A number is out of range. -/
  | outOfRange (n : Int) (expected : String)
  /-- An array is too short. -/
  | wrongLength (found : Nat) (expected : String)
  /-- A value is too long. -/
  | overflow (overflow : Overflow)
  /-- A text is not hexadecimal. -/
  | badHex (fault : Hex.Fault)
  /-- A text shows no device address. -/
  | badAddress (fault : AddressFault)
  deriving Repr

/-- Names between quotation marks, as a list in a sentence. -/
def enumerate : List String → String
  | [] => "there are no variants"
  | [a] => s!"expected `{a}`"
  | [a, b] => s!"expected `{a}` or `{b}`"
  | names => "expected one of " ++ ", ".intercalate (names.map fun n => s!"`{n}`")

/-- The wording of a complaint. -/
def Complaint.message : Complaint → String
  | missingField name => s!"missing field `{name}`"
  | duplicateField name => s!"duplicate field `{name}`"
  | unknownVariant name expected => s!"unknown variant `{name}`, " ++ enumerate expected
  | wrongType found expected => s!"invalid type: {found.words}, expected {expected}"
  | outOfRange n expected => s!"invalid value: integer `{n}`, expected {expected}"
  | wrongLength found expected => s!"invalid length {found}, expected {expected}"
  | overflow o => o.message
  | badHex f => f.message
  | badAddress f => f.message

/-- Why text cannot be read. -/
inductive Fault where
  /-- It is not JSON, or not of a form that could be read at all. -/
  | malformed
  /-- It says something that is not acceptable. -/
  | complaint (complaint : Complaint)
  deriving Repr

end RadioFrame.Json
