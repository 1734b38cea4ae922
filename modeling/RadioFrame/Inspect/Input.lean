import RadioFrame.Text.Hex

/-!
Frames as they are typed: hexadecimal digits in either case.

Blanks and line breaks anywhere do not count, and after their removal the digits may follow `0x`.
The positions of a fault are those in what then remains.
-/

namespace RadioFrame.Inspect

/-- The ranges of the characters that count as blank, ends included. -/
def blanks : List (Nat × Nat) :=
  [(0x09, 0x0D), (0x20, 0x20), (0x85, 0x85), (0xA0, 0xA0), (0x1680, 0x1680), (0x2000, 0x200A),
    (0x2028, 0x2029), (0x202F, 0x202F), (0x205F, 0x205F), (0x3000, 0x3000)]

/-- Whether a character is a blank or a line break, in any script. -/
def isBlank (c : Char) : Bool := blanks.any fun r => r.1 ≤ c.toNat && c.toNat ≤ r.2

/-- Drops the two characters `0x` at the front. -/
def dropMark : List Char → List Char
  | '0' :: 'x' :: cs => cs
  | cs => cs

/-- The digits of a typed frame. -/
def digitsOf (input : List Char) : List Char := dropMark (input.filter fun c => !isBlank c)

/-- Why a typed frame cannot be read. -/
structure InputFault where
  /-- What was typed. -/
  input : String
  /-- What is wrong with its digits. -/
  fault : Hex.Fault
  deriving DecidableEq, Repr

/-- The wording of a fault. -/
def InputFault.message (f : InputFault) : String :=
  s!"invalid hex frame '{f.input}': {f.fault.message}"

/-- The bytes of a typed frame. -/
def parseHex (input : String) : Except InputFault Bytes :=
  (Hex.decode (digitsOf input.toList)).mapError fun fault => ⟨input, fault⟩

end RadioFrame.Inspect
