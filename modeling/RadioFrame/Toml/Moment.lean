import RadioFrame.Toml.Text

/-!
Dates and times in TOML: a day, a time of day, or both with or without a distance from Greenwich.

Only whether they are well formed is of interest, so that what is read is what follows them.
-/

namespace RadioFrame.Toml

/-- The number of digits at the front, of which there have to be some given count. -/
def digits? (count : Nat) (cs : List Char) : Option (Nat × List Char) :=
  let ds := cs.take count
  if ds.length = count ∧ ds.all Char.isDigit then some (Nat.ofDigitChars 10 ds 0, cs.drop count)
  else none

/-- Two digits that spell a number of some range. -/
def twoDigits? (lowest highest : Nat) (cs : List Char) : Option (Nat × List Char) := do
  let (n, rest) ← digits? 2 cs
  if lowest ≤ n ∧ n ≤ highest then some (n, rest) else none

/-- A given character. -/
def char? (c : Char) : List Char → Option (List Char)
  | d :: cs => if d = c then some cs else none
  | [] => none

/-- Whether a year has a 29th of February. -/
def isLeapYear (year : Nat) : Bool :=
  year % 4 = 0 && (year % 100 != 0 || year % 400 = 0)

/-- How many days a month has. -/
def daysIn (year month : Nat) : Nat :=
  if month = 2 then (if isLeapYear year then 29 else 28)
  else if month = 4 ∨ month = 6 ∨ month = 9 ∨ month = 11 then 30
  else 31

/-- A day: year, month and day of the month. -/
def day? (cs : List Char) : Option (List Char) := do
  let (year, cs) ← digits? 4 cs
  let cs ← char? '-' cs
  let (month, cs) ← twoDigits? 1 12 cs
  let cs ← char? '-' cs
  let (_, cs) ← twoDigits? 1 (daysIn year month) cs
  some cs

/-- A fraction of a second, if there is one. -/
def fraction? : List Char → Option (List Char)
  | '.' :: c :: cs => if c.isDigit then some (cs.dropWhile Char.isDigit) else none
  | cs => some cs

/-- A time of day. -/
def timeOfDay? (cs : List Char) : Option (List Char) := do
  let (_, cs) ← twoDigits? 0 23 cs
  let cs ← char? ':' cs
  let (_, cs) ← twoDigits? 0 59 cs
  let cs ← char? ':' cs
  let (_, cs) ← twoDigits? 0 60 cs
  fraction? cs

/-- A distance from Greenwich, if there is one. -/
def offset? : List Char → Option (List Char)
  | 'Z' :: cs | 'z' :: cs => some cs
  | '+' :: cs | '-' :: cs => do
      let (_, cs) ← twoDigits? 0 23 cs
      let cs ← char? ':' cs
      let (_, cs) ← twoDigits? 0 59 cs
      some cs
  | cs => some cs

/-- Whether a character may stand between a day and a time of day. -/
def isDelimiter (c : Char) : Bool := c = 'T' || c = 't' || c = ' '

/-- A time of day after a day, if there is one. -/
def timeAfterDay? : List Char → Option (List Char)
  | c :: cs =>
      if isDelimiter c then
        match timeOfDay? cs with
        | some rest => offset? rest
        | none => some (c :: cs)
      else some (c :: cs)
  | [] => some []

/-- A date, a time or both. -/
def moment? (cs : List Char) : Option (List Char) :=
  match day? cs with
  | some rest => timeAfterDay? rest
  | none => timeOfDay? cs

end RadioFrame.Toml
