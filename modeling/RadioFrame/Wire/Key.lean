import RadioFrame.Wire.Fault
import RadioFrame.Wire.Varint

/-!
The pieces of which every record is made: numbers, keys, runs of bytes.

A key is one number, eight times the tag plus the layout of the value that follows. Every reader
gives back the bytes after what it read.
-/

namespace RadioFrame.Wire

/-- Reads a number. -/
def readNumber (bytes : Bytes) : Except Fault (Nat × Bytes) :=
  match Varint.read? bytes with
  | some r => .ok r
  | none => .error (.plain .badVarint)

/-- What a record begins with. -/
structure Key where
  /-- Which field. -/
  tag : Nat
  /-- How its value is laid out. -/
  wireType : WireType
  deriving DecidableEq, Repr

/-- The tags that a key can hold: it has 32 bits, three of them for the layout. -/
abbrev ValidTag (tag : Nat) : Prop := 0 < tag ∧ tag < 0x20000000

/-- Reads a key. Its size is looked at first, then its layout, then its tag. -/
def readKey (bytes : Bytes) : Except Fault (Key × Bytes) := do
  let (n, rest) ← readNumber bytes
  if UInt32.size ≤ n then .error (.plain (.badKey n))
  else match WireType.ofCode? (n % 8) with
    | none => .error (.plain (.badWireType (n % 8)))
    | some wireType =>
        if n / 8 = 0 then .error (.plain .zeroTag) else .ok (⟨n / 8, wireType⟩, rest)

/-- Writes a key. -/
def writeKey (tag : Nat) (wireType : WireType) : Bytes := Varint.write (8 * tag + wireType.code)

/-- Reads a given number of bytes. -/
def readRun (n : Nat) (bytes : Bytes) : Except Fault (Bytes × Bytes) :=
  if n ≤ bytes.length then .ok (bytes.take n, bytes.drop n) else .error (.plain .underflow)

/-- Reads a length and as many bytes. The length is held against all bytes that are left, whatever
message they belong to. -/
def readSized (bytes : Bytes) : Except Fault (Bytes × Bytes) := do
  let (n, rest) ← readNumber bytes
  readRun n rest

/-- Writes a length and as many bytes. -/
def writeSized (bytes : Bytes) : Bytes := Varint.write bytes.length ++ bytes

/-- Refuses a layout other than the expected one. -/
def expect (expected found : WireType) : Except Fault Unit :=
  if found = expected then .ok () else .error (.plain (.wrongWireType found expected))

end RadioFrame.Wire
