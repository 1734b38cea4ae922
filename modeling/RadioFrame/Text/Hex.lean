import RadioFrame.Bytes
import RadioFrame.Text.Quoted

/-!
Bytes written as pairs of hexadecimal digits.

* `Hex.encode`: two lower-case digits a byte, the high one first.
* `Hex.decode`: the bytes such digits spell, in either case; it reads the bytes of the text, so a
  character outside ASCII counts as many places as it has bytes.
-/

namespace RadioFrame

namespace Hex

/-- Why text is not hexadecimal. -/
inductive Fault where
  /-- A digit has no partner. -/
  | oddLength
  /-- The first byte that is no digit, and its place. -/
  | badByte (byte : UInt8) (position : Nat)
  deriving DecidableEq, Repr

/-- The wording of a fault; the byte is shown as the character of its number. -/
def Fault.message : Fault → String
  | .oddLength => "Odd number of digits"
  | .badByte b i =>
      "Invalid character " ++ String.ofList (Text.quotedChar (Char.ofNat b.toNat)) ++
        s!" at position {i}"

/-- The lower-case digit of a value below 16. -/
def digit (n : Nat) : Char := if n < 10 then Char.ofNat (n + 48) else Char.ofNat (n + 87)

/-- The value of a digit of either case. -/
def digitValue? (c : Char) : Option Nat :=
  if '0' ≤ c ∧ c ≤ '9' then some (c.toNat - 48)
  else if 'a' ≤ c ∧ c ≤ 'f' then some (c.toNat - 87)
  else if 'A' ≤ c ∧ c ≤ 'F' then some (c.toNat - 55)
  else none

/-- The two digits of a byte. -/
def encodeByte (b : UInt8) : List Char := [digit (b.toNat / 16), digit (b.toNat % 16)]

/-- Two lower-case digits for each byte. -/
def encode (bytes : Bytes) : List Char := bytes.flatMap encodeByte

/-- The value of the digit at a place. -/
def digitAt (position : Nat) (b : UInt8) : Except Fault Nat :=
  match digitValue? (Char.ofNat b.toNat) with
  | some n => .ok n
  | none => .error (.badByte b position)

/-- The bytes spelled by pairs of digits, the first of them at place `position`. -/
def decodeFrom (position : Nat) : Bytes → Except Fault Bytes
  | [] => .ok []
  | [_] => .error .oddLength
  | a :: b :: rest => do
      let high ← digitAt position a
      let low ← digitAt (position + 1) b
      let bytes ← decodeFrom (position + 2) rest
      .ok (UInt8.ofNat (16 * high + low) :: bytes)

/-- The bytes that text spells. An odd number of places is noticed before anything else. -/
def decode (text : List Char) : Except Fault Bytes :=
  let places := text.flatMap String.utf8EncodeChar
  if places.length % 2 = 1 then .error .oddLength else decodeFrom 0 places

end Hex

end RadioFrame
