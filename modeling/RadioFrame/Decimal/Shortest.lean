/-!
The shortest decimal that reads back as a given binary fraction.

A positive floating point number is a whole number times a power of two. All reals nearer to it than
to its neighbours read back as it; they form an interval, whose ends belong to it when the whole
number is even. Of all decimals in the interval `shortest` takes one with the fewest digits, and of
those the one nearest to the number: it goes through the grids of multiples of a power of ten, the
coarsest first, and tests on each the two neighbours of the number, in exact arithmetic.
-/

namespace RadioFrame

/-- The number `significand * 2 ^ exponent`. -/
structure Binary where
  /-- The whole number. -/
  significand : Nat
  /-- The power of two. -/
  exponent : Int
  /-- The numbers below lie half as far apart as those above. -/
  isFirstOfBinade : Bool

/-- The number `digits * 10 ^ exponent`. -/
structure Decimal where
  /-- The digits, as a whole number. -/
  digits : Nat
  /-- The power of ten. -/
  exponent : Int
  deriving DecidableEq, Repr

/-- The absolute value of a finite floating point number, taken from its bits. -/
def Binary.ofBits (bits : UInt64) : Binary :=
  let fraction := bits.toNat % 0x10000000000000
  let binade : Nat := bits.toNat / 0x10000000000000 % 0x800
  if binade = 0 then ⟨fraction, -1074, false⟩
  else ⟨fraction + 0x10000000000000, (binade : Int) - 1075, decide (fraction = 0 ∧ 1 < binade)⟩

/-- The interval of a number in quarters of its last place, and the unit of a grid: the number is
`4 * significand * scale`, a point of the grid `digits * step`. -/
structure Binary.Comparison where
  /-- The lower end. -/
  low : Nat
  /-- The number. -/
  value : Nat
  /-- The upper end. -/
  high : Nat
  /-- The distance between two points of the grid. -/
  step : Nat

/-- Makes the interval of a number comparable with the grid of the multiples of `10 ^ power`. -/
def Binary.onGrid (b : Binary) (power : Int) : Comparison :=
  let scale := Nat.pow 2 (b.exponent - 2).toNat * Nat.pow 10 (-power).toNat
  let step := Nat.pow 2 (2 - b.exponent).toNat * Nat.pow 10 power.toNat
  let quarters := 4 * b.significand
  ⟨(quarters - if b.isFirstOfBinade then 1 else 2) * scale, quarters * scale,
    (quarters + 2) * scale, step⟩

/-- Whether a point of a grid reads back as the number. -/
def Binary.Comparison.holds (c : Comparison) (inclusive : Bool) (digits : Nat) : Bool :=
  if inclusive then decide (c.low ≤ digits * c.step ∧ digits * c.step ≤ c.high)
  else decide (c.low < digits * c.step ∧ digits * c.step < c.high)

/-- The better of the two neighbours of a number on a grid, if one of them reads back. -/
def Binary.nearest? (b : Binary) (power : Int) : Option Nat :=
  let c := b.onGrid power
  let inclusive := decide (b.significand % 2 = 0)
  let below := c.value / c.step
  let lower := c.holds inclusive below && decide (0 < below)
  let upper := c.holds inclusive (below + 1)
  if lower && upper then
    let toLower := c.value - below * c.step
    let toUpper := (below + 1) * c.step - c.value
    if toLower < toUpper ∨ toLower = toUpper ∧ below % 2 = 0 then some below
    else some (below + 1)
  else if lower then some below
  else if upper then some (below + 1)
  else none

/-- Goes through the grids from `10 ^ power` downwards. -/
def Binary.search (b : Binary) : Nat → Int → Decimal
  | 0, _ => ⟨0, 0⟩
  | fuel + 1, power =>
      match b.nearest? power with
      | some digits => ⟨digits, power⟩
      | none => b.search fuel (power - 1)

/-- The shortest decimal that reads back as a positive number. -/
def Binary.shortest (b : Binary) : Decimal := b.search 700 310

/-! ### Text -/

/-- Which numbers are written without a power of ten, namely those whose first digit stands for a
power of ten within two bounds. -/
structure Decimal.Style where
  /-- The least such power. -/
  least : Int
  /-- The greatest such power. -/
  greatest : Int

/-- A decimal as text. Without a power of ten there is always a digit after the point; with one, the
point is left out after a single digit and the power has its sign. -/
def Decimal.render (style : Decimal.Style) (d : Decimal) : List Char :=
  let digits := Nat.toDigits 10 d.digits
  let first := d.exponent + (digits.length - 1 : Nat)
  if style.least ≤ first ∧ first ≤ style.greatest then
    if 0 ≤ d.exponent then digits ++ List.replicate d.exponent.toNat '0' ++ ['.', '0']
    else if 0 ≤ first then
      let whole := (first + 1).toNat
      digits.take whole ++ '.' :: digits.drop whole
    else '0' :: '.' :: List.replicate (-first - 1).toNat '0' ++ digits
  else
    digits.take 1 ++ (if digits.length = 1 then [] else '.' :: digits.drop 1) ++
      ['e', if first < 0 then '-' else '+'] ++ Nat.toDigits 10 first.natAbs

/-- The shortest text of a finite floating point number. -/
def shortestText (style : Decimal.Style) (x : Float) : List Char :=
  let bits := x.toBits
  let sign := if bits.toNat / 0x8000000000000000 = 1 then ['-'] else []
  let b := Binary.ofBits bits
  sign ++ if b.significand = 0 then ['0', '.', '0'] else b.shortest.render style

end RadioFrame
