import RadioFrame.Decimal.Shortest

/-!
Numbers as they are spelled in JSON, and what they stand for.

A numeral without fraction and exponent that fits 64 bits stands for a whole number; every other
one, `-0` included, for a floating point number. The digits of the latter are gathered while they
fit 64 bits; those that follow only count towards the exponent before the point, and not at all
behind it.
-/

namespace RadioFrame.Json

/-- A number as it is spelled. -/
structure Numeral where
  /-- It begins with a minus sign. -/
  negative : Bool
  /-- The digits before the point. -/
  whole : List Char
  /-- The digits behind the point, if there is one. -/
  fraction : Option (List Char)
  /-- The exponent, if there is one: whether it has a minus sign, and its digits. -/
  exponent : Option (Bool × List Char)
  deriving DecidableEq, Repr

/-- What a numeral stands for. -/
inductive Number where
  /-- A whole number. -/
  | integer (n : Int)
  /-- A floating point number. -/
  | real (x : Float)
  deriving Repr

namespace Numeral

/-- The value of a digit. -/
def digitValue (c : Char) : Nat := c.toNat - 48

/-- Adds digits to a number while it stays below `2 ^ 64`; gives the number and the digits that are
left. -/
def gather : Nat → List Char → Nat × List Char
  | n, [] => (n, [])
  | n, c :: cs =>
      let next := 10 * n + digitValue c
      if next < UInt64.size then gather next cs else (n, c :: cs)

/-- The greatest power of ten that one multiplication takes. -/
def maxPower : Nat := 308

/-- A power of ten as a floating point number. -/
def powerOfTen (n : Nat) : Float := Float.ofScientific 1 false n

/-- Multiplies by a power of ten, unless the result is too large. Below `10 ^ -308` it is divided in
steps, and what has become zero stays so. -/
def scale : Nat → Float → Int → Option Float
  | fuel, x, exponent =>
      if exponent.natAbs ≤ maxPower then
        if 0 ≤ exponent then
          let y := x * powerOfTen exponent.natAbs
          if y.isInf then none else some y
        else some (x / powerOfTen exponent.natAbs)
      else if x == 0 then some x
      else if 0 ≤ exponent then none
      else match fuel with
        | 0 => some 0
        | fuel + 1 => scale fuel (x / powerOfTen maxPower) (exponent + maxPower)

/-- The greatest exponent that is read as a number. -/
def maxExponent : Nat := 0x7fffffff

/-- The absolute value as a floating point number, unless it is too large. -/
def magnitude? (n : Numeral) : Option Float :=
  let (whole, rest) := gather 0 n.whole
  let behind := n.fraction.getD []
  let (significand, unread) := gather whole behind
  let shift : Int := rest.length - (behind.length - unread.length : Nat)
  let x := (UInt64.ofNat significand).toFloat
  match n.exponent with
  | none => scale 3 x shift
  | some (negative, digits) =>
      let power := Nat.ofDigitChars 10 digits 0
      if maxExponent < power then
        if significand ≠ 0 ∧ !negative then none else some 0
      else scale 3 x (if negative then shift - power else shift + power)

/-- What a numeral stands for, unless it is too large. -/
def value? (n : Numeral) : Option Number :=
  let whole := Nat.ofDigitChars 10 n.whole 0
  if n.fraction.isNone ∧ n.exponent.isNone ∧ !n.negative ∧ whole < UInt64.size then
    some (.integer whole)
  else if n.fraction.isNone ∧ n.exponent.isNone ∧ n.negative ∧ 0 < whole ∧
      whole ≤ 0x8000000000000000 then
    some (.integer (-whole))
  else
    n.magnitude?.map fun x => .real (if n.negative then -x else x)

end Numeral

/-- Floating point numbers are shown without a power of ten from `0.00001` up to sixteen digits, and
otherwise with one. -/
def realStyle : Decimal.Style := ⟨-5, 15⟩

end RadioFrame.Json
