import RadioFrame.Schema.Vocabulary
import RadioFrame.Value.Address
import RadioFrame.Value.Capability
import RadioFrame.Value.ChannelMap
import RadioFrame.Wire.Scalar

/-!
What a simple value of the wire means.

A datum says which scalar carries it, which scalars are acceptable and what they stand for:
`check` turns a scalar into a checked value or finds its flaw, `toRaw` goes back.
-/

namespace RadioFrame

/-- What is wrong with a value that was read correctly. -/
inductive Flaw where
  /-- It is too long. -/
  | overflow (overflow : Overflow)
  /-- It has not the one length that it must have. -/
  | wrongLength (expected found : Nat)
  /-- Its number stands for no word. -/
  | unknownNumber (number : Int32)
  /-- It has to be there and is not. -/
  | missing
  deriving DecidableEq, Repr

/-- A flaw and the field that has it. -/
structure Violation where
  /-- The field. -/
  field : String
  /-- What is wrong with it. -/
  flaw : Flaw
  deriving DecidableEq, Repr

/-- The wording of a violation. -/
def Violation.message (v : Violation) : String :=
  match v.flaw with
  | .overflow o => s!"field '{v.field}': {o.message}"
  | .wrongLength expected found =>
      s!"field '{v.field}': expected {expected} bytes, got {found}"
  | .unknownNumber n => s!"field '{v.field}': unknown enum value {n}"
  | .missing => s!"missing required field '{v.field}'"

/-- The meanings of simple values. -/
inductive Datum where
  /-- A number of 32 bits. -/
  | natural32
  /-- A number of 64 bits. -/
  | natural64
  /-- A signed number of 32 bits. -/
  | integer
  /-- A truth value. -/
  | flag
  /-- A word of a vocabulary. -/
  | word (vocabulary : Vocabulary)
  /-- Bytes up to a bound. -/
  | payload (bound : Nat)
  /-- Bytes of one length. -/
  | block (length : Nat)
  /-- A device address. -/
  | address
  /-- A map of channels. -/
  | channels
  /-- A capability word. -/
  | capability

namespace Datum

/-- The scalar that carries a datum. -/
def scalar : Datum → Wire.Scalar
  | natural32 => .uint32
  | natural64 => .uint64
  | integer => .int32
  | flag => .bool
  | word _ => .int32
  | payload _ => .bytes
  | block _ => .bytes
  | address => .bytes
  | channels => .bytes
  | capability => .uint32

/-- A datum as it stands on the wire. -/
abbrev Raw (d : Datum) : Type := d.scalar.Value

/-- A datum that has been checked. -/
def Value : Datum → Type
  | natural32 => UInt32
  | natural64 => UInt64
  | integer => Int32
  | flag => Bool
  | word v => v.Word
  | payload bound => Payload bound
  | block length => Block length
  | address => BdAddress
  | channels => ChannelMap
  | capability => DomainCapabilities

instance decEq : (d : Datum) → DecidableEq d.Value
  | natural32 => inferInstanceAs (DecidableEq UInt32)
  | natural64 => inferInstanceAs (DecidableEq UInt64)
  | integer => inferInstanceAs (DecidableEq Int32)
  | flag => inferInstanceAs (DecidableEq Bool)
  | word v => inferInstanceAs (DecidableEq v.Word)
  | payload bound => inferInstanceAs (DecidableEq (Payload bound))
  | block length => inferInstanceAs (DecidableEq (Block length))
  | address => inferInstanceAs (DecidableEq BdAddress)
  | channels => inferInstanceAs (DecidableEq ChannelMap)
  | capability => inferInstanceAs (DecidableEq DomainCapabilities)

/-- The value that a datum has when nothing else was said: zero, false, nothing, the first word. -/
def zero : (d : Datum) → d.Value
  | natural32 => (0 : UInt32)
  | natural64 => (0 : UInt64)
  | integer => (0 : Int32)
  | flag => false
  | word v => v.first
  | payload bound => (Payload.empty : Payload bound)
  | block length => Block.replicate length 0
  | address => (default : BdAddress)
  | channels => (default : ChannelMap)
  | capability => (default : DomainCapabilities)

/-- The block that bytes form, or their flaw. -/
def checkLength (length : Nat) (bytes : Bytes) : Except Flaw (Block length) :=
  match Block.ofBytes? length bytes with
  | some b => .ok b
  | none => .error (.wrongLength length bytes.length)

/-- Checks a scalar. -/
def check : (d : Datum) → d.Raw → Except Flaw d.Value
  | natural32, n => .ok n
  | natural64, n => .ok n
  | integer, n => .ok n
  | flag, b => .ok b
  | word v, n =>
      match v.ofNumber? n with
      | some w => .ok w
      | none => .error (.unknownNumber n)
  | payload bound, bytes => (Payload.ofBytes bound bytes).mapError .overflow
  | block length, bytes => checkLength length bytes
  | address, bytes =>
      match BdAddress.ofWire? bytes with
      | some a => .ok a
      | none => .error (.wrongLength 6 bytes.length)
  | channels, bytes => do
      let b ← checkLength 5 bytes
      .ok (⟨b⟩ : ChannelMap)
  | capability, w => (DomainCapabilities.ofWord w).mapError fun u => .unknownNumber u.number

/-- The scalar of a checked value. -/
def toRaw : (d : Datum) → d.Value → d.Raw
  | natural32, n => n
  | natural64, n => n
  | integer, n => n
  | flag, b => b
  | word _, w => Vocabulary.number w
  | payload _, p => Payload.bytes p
  | block _, b => Block.bytes b
  | address, a => BdAddress.toWire a
  | channels, m => Block.bytes (ChannelMap.bytes m)
  | capability, e => DomainCapabilities.toWord e

/-- What the value of which nothing was said is on the wire: the number of the first word, zero
bytes where there have to be some, and otherwise the zero of the scalar. -/
def rawZero : (d : Datum) → d.Raw
  | word v => Vocabulary.number v.first
  | block length => List.replicate length (0 : UInt8)
  | address => List.replicate 6 (0 : UInt8)
  | channels => List.replicate 5 (0 : UInt8)
  | d => d.scalar.zero

theorem toRaw_zero (d : Datum) : d.toRaw d.zero = d.rawZero := by cases d <;> rfl

end Datum

end RadioFrame
