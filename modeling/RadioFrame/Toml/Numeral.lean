import RadioFrame.Toml.Text

/-!
Numbers in TOML.

Between two digits there may be an underscore. A whole number may be written in base 2, 8, 10 or 16
and has to fit 64 bits with a sign; a number with a fraction or an exponent may be as small as it
likes, and not so large that it would count as infinite.
-/

namespace RadioFrame.Toml

/-- The digits after another digit, each perhaps after an underscore. -/
def moreDigits? (isDigit : Char → Bool) : Reader (List Char)
  | [] => some ([], [])
  | '_' :: c :: cs => if isDigit c then andBefore c (moreDigits? isDigit cs) else none
  | c :: cs => if isDigit c then andBefore c (moreDigits? isDigit cs) else some ([], c :: cs)

/-- At least one digit. -/
def someDigits? (isDigit : Char → Bool) : Reader (List Char)
  | [] => none
  | c :: cs => if isDigit c then andBefore c (moreDigits? isDigit cs) else none

/-- The digits of a whole number: a zero alone, or digits that do not begin with one. -/
def wholeDigits? : Reader (List Char)
  | '0' :: cs => some (['0'], cs)
  | cs => someDigits? Char.isDigit cs

/-- A sign, if there is one: whether it is a minus sign. -/
def sign : List Char → Bool × List Char
  | '-' :: cs => (true, cs)
  | '+' :: cs => (false, cs)
  | cs => (false, cs)

/-! ### Whole numbers -/

/-- The number that digits of a base spell, if it is below `2 ^ 63`. -/
def inBase? (base : Nat) (isDigit : Char → Bool) (cs : List Char) : Option (Int × List Char) := do
  let (digits, rest) ← someDigits? isDigit cs
  let values ← digits.mapM Hex.digitValue?
  let n := values.foldl (fun n v => base * n + v) 0
  if n < 0x8000000000000000 then some (n, rest) else none

/-- A whole number. -/
def integer? : Reader Int
  | '0' :: 'x' :: cs => inBase? 16 (fun c => (Hex.digitValue? c).isSome) cs
  | '0' :: 'o' :: cs => inBase? 8 (fun c => '0' ≤ c && c ≤ '7') cs
  | '0' :: 'b' :: cs => inBase? 2 (fun c => c = '0' || c = '1') cs
  | cs => do
      let (negative, cs) := sign cs
      let (digits, rest) ← wholeDigits? cs
      let n : Int := Nat.ofDigitChars 10 digits 0
      let n := if negative then -n else n
      if Int64.minValue.toInt ≤ n ∧ n ≤ Int64.maxValue.toInt then some (n, rest) else none

/-! ### Other numbers -/

/-- A fraction: a point and digits. -/
def pointDigits? : List Char → Option (List Char × List Char)
  | '.' :: cs => someDigits? Char.isDigit cs
  | _ => none

/-- An exponent: its letter, a sign if there is one, and digits. -/
def exponent? : List Char → Option (Int × List Char)
  | c :: cs =>
      if c = 'e' ∨ c = 'E' then do
        let (negative, cs) := sign cs
        let (digits, rest) ← someDigits? Char.isDigit cs
        let n : Int := Nat.ofDigitChars 10 digits 0
        some (if negative then -n else n, rest)
      else none
  | [] => none

/-- The least number that is rounded to infinity. -/
def infiniteFrom : Nat := Nat.pow 2 1024 - Nat.pow 2 970

/-- Whether `n * 10 ^ e` is rounded to infinity; the count of the digits of `n` decides but for a
single power of ten. -/
def isInfinite (n : Nat) (e : Int) : Bool :=
  let size := (Nat.toDigits 10 n).length + e
  n != 0 && (decide (309 < size) ||
    (decide (size = 309) && decide (infiniteFrom * Nat.pow 10 (-e).toNat ≤ n * Nat.pow 10 e.toNat)))

/-- A number with a fraction, an exponent or both, and what follows it. -/
def decimal? (cs : List Char) : Option (List Char) := do
  let (negative, cs) := sign cs
  let (whole, cs) ← wholeDigits? cs
  let (behind, e, rest) ←
    match pointDigits? cs with
    | some (behind, cs) =>
        match exponent? cs with
        | some (e, rest) => some (behind, e, rest)
        | none => some (behind, 0, cs)
    | none => (exponent? cs).map fun (e, rest) => ([], e, rest)
  let n := Nat.ofDigitChars 10 (whole ++ behind) 0
  if !negative && isInfinite n (e - behind.length) then none else some rest

/-- The words for infinity and for no number at all, with a sign if any, and what follows them. -/
def special? (cs : List Char) : Option (List Char) :=
  match (sign cs).2 with
  | 'i' :: 'n' :: 'f' :: rest => some rest
  | 'n' :: 'a' :: 'n' :: rest => some rest
  | _ => none

end RadioFrame.Toml
