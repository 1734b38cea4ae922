import RadioFrame.Text.Printable

/-!
Text and characters between quotation marks, as messages show them.

The mark itself and the backslash are written after a backslash, as are tab, line feed, carriage
return and the character of number zero; every other character that is not shown as itself is
written by its number in hexadecimal, between braces.
-/

namespace RadioFrame.Text

/-- One character inside quotation marks of kind `mark`. -/
def escape (mark c : Char) : List Char :=
  if c = mark then ['\\', mark]
  else match c with
    | '\x00' => ['\\', '0']
    | '\t' => ['\\', 't']
    | '\n' => ['\\', 'n']
    | '\r' => ['\\', 'r']
    | '\\' => ['\\', '\\']
    | c => if isShown c then [c] else ['\\', 'u', '\x7b'] ++ Nat.toDigits 16 c.toNat ++ ['\x7d']

/-- Text between double quotation marks. -/
def quoted (text : List Char) : List Char := '"' :: text.flatMap (escape '"') ++ ['"']

/-- A character between single quotation marks. -/
def quotedChar (c : Char) : List Char := '\'' :: escape '\'' c ++ ['\'']

/-- Cuts text at every occurrence of a separator. -/
def splitOn (separator : Char) : List Char → List (List Char)
  | [] => [[]]
  | c :: cs =>
      if c = separator then [] :: splitOn separator cs
      else match splitOn separator cs with
        | [] => [[c]]
        | p :: ps => (c :: p) :: ps

end RadioFrame.Text
