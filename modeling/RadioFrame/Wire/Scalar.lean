import RadioFrame.Wire.Key

/-!
The simple values of the wire: numbers of fixed width, truth values and byte strings.

A negative number is written as its 64-bit sign extension, ten bytes. Reading keeps the low 32 bits
of a number that has to fit them, and takes any number but zero for true.
-/

namespace RadioFrame.Wire

/-- The types of simple values. -/
inductive Scalar where
  | uint32
  | uint64
  | int32
  | bool
  | bytes
  deriving DecidableEq, Repr

namespace Scalar

/-- The values of a type. -/
def Value : Scalar → Type
  | uint32 => UInt32
  | uint64 => UInt64
  | int32 => Int32
  | bool => Bool
  | bytes => Bytes

instance decEq : (s : Scalar) → DecidableEq s.Value
  | uint32 => inferInstanceAs (DecidableEq UInt32)
  | uint64 => inferInstanceAs (DecidableEq UInt64)
  | int32 => inferInstanceAs (DecidableEq Int32)
  | bool => inferInstanceAs (DecidableEq Bool)
  | bytes => inferInstanceAs (DecidableEq Bytes)

/-- The value a field has when it is not written. -/
def zero : (s : Scalar) → s.Value
  | uint32 => (0 : UInt32)
  | uint64 => (0 : UInt64)
  | int32 => (0 : Int32)
  | bool => false
  | bytes => ([] : Bytes)

/-- The layout of a type. -/
def wireType : Scalar → WireType
  | bytes => .lengthDelimited
  | _ => .varint

/-- A number as its 64-bit sign extension. -/
def signExtended (n : Int32) : Nat := (n.toBitVec.signExtend 64).toNat

/-- The signed number in the low 32 bits. -/
def ofLow32 (n : Nat) : Int32 := ⟨⟨BitVec.ofNat 32 n⟩⟩

/-- Writes a value. -/
def write : (s : Scalar) → s.Value → Bytes
  | uint32, n => Varint.write (UInt32.toNat n)
  | uint64, n => Varint.write (UInt64.toNat n)
  | int32, n => Varint.write (signExtended n)
  | bool, b => Varint.write (Bool.toNat b)
  | bytes, bs => writeSized bs

/-- Reads a value. -/
def readValue : (s : Scalar) → Bytes → Except Fault (s.Value × Bytes)
  | uint32, input => do
      let (n, rest) ← readNumber input
      .ok (UInt32.ofNat n, rest)
  | uint64, input => do
      let (n, rest) ← readNumber input
      .ok (UInt64.ofNat n, rest)
  | int32, input => do
      let (n, rest) ← readNumber input
      .ok (ofLow32 n, rest)
  | bool, input => do
      let (n, rest) ← readNumber input
      .ok (decide (n ≠ 0), rest)
  | bytes, input => readSized input

/-- Reads a value whose key has been read, with the layout that the key states. -/
def read (s : Scalar) (found : WireType) (input : Bytes) : Except Fault (s.Value × Bytes) := do
  expect s.wireType found
  s.readValue input

end Scalar

end RadioFrame.Wire
