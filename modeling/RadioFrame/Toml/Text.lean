import RadioFrame.Text.Hex

/-!
The small parts of TOML text: blanks, comments, line breaks, strings and keys.

A reader takes what it reads from the front of some characters and gives back what follows. It gives
nothing if the text is not well formed there; why does not matter.

Strings come in four kinds, between `"` or `'` and on one line or, between three such marks, on
several. Only those between `"` know escapes.
-/

namespace RadioFrame.Toml

/-- A reader of a part of a text. -/
abbrev Reader (α : Type) := List Char → Option (α × List Char)

/-! ### Between the values -/

/-- Whether a character is a blank within a line. -/
def isBlank (c : Char) : Bool := c = ' ' || c = '\t'

/-- Passes over blanks within a line. -/
def skipBlanks (cs : List Char) : List Char := cs.dropWhile isBlank

/-- Whether a character may stand in a comment or a string: no control character but the tab. -/
def isPlain (c : Char) : Bool := c = '\t' || (decide (32 ≤ c.toNat) && decide (c.toNat ≠ 127))

/-- Takes a line break. -/
def lineBreak? : List Char → Option (List Char)
  | '\n' :: cs => some cs
  | '\r' :: '\n' :: cs => some cs
  | _ => none

/-- Passes over the end of a line: blanks, a comment if there is one, and a line break or the end of
the text. -/
def endLine? (cs : List Char) : Option (List Char) :=
  let cs := match skipBlanks cs with
    | '#' :: cs => cs.dropWhile isPlain
    | cs => cs
  match cs with
  | [] => some []
  | cs => lineBreak? cs

/-- Passes over blanks, comments and line breaks. The flag says whether a comment is open. -/
def skipSpace? : Bool → List Char → Option (List Char)
  | _, [] => some []
  | _, '\n' :: cs => skipSpace? false cs
  | _, '\r' :: '\n' :: cs => skipSpace? false cs
  | true, c :: cs => if isPlain c then skipSpace? true cs else none
  | false, '#' :: cs => skipSpace? true cs
  | false, c :: cs => if isBlank c then skipSpace? false cs else some (c :: cs)

/-! ### Strings -/

/-- The character of a letter after a backslash. -/
def named? : Char → Option Char
  | 'b' => some '\x08'
  | 't' => some '\t'
  | 'n' => some '\n'
  | 'f' => some '\x0c'
  | 'r' => some '\r'
  | '"' => some '"'
  | '\\' => some '\\'
  | _ => none

/-- The number that hexadecimal digits spell. -/
def hexNumber? (digits : List Char) : Option Nat := do
  let values ← digits.mapM Hex.digitValue?
  some (values.foldl (fun n v => 16 * n + v) 0)

/-- The character whose number hexadecimal digits spell, if there is one. -/
def numbered? (digits : List Char) : Option Char := do
  let n ← hexNumber? digits
  if Nat.isValidChar n then some (Char.ofNat n) else none

/-- Puts a character before what a reader has read. -/
def andBefore (c : Char) (r : Option (List Char × List Char)) : Option (List Char × List Char) :=
  r.map fun (cs, rest) => (c :: cs, rest)

/-- A string on one line, after its opening mark. -/
def basic? : Reader (List Char)
  | [] => none
  | '"' :: rest => some ([], rest)
  | '\\' :: 'u' :: a :: b :: c :: d :: rest => do
      let x ← numbered? [a, b, c, d]
      andBefore x (basic? rest)
  | '\\' :: 'U' :: a :: b :: c :: d :: e :: f :: g :: h :: rest => do
      let x ← numbered? [a, b, c, d, e, f, g, h]
      andBefore x (basic? rest)
  | '\\' :: c :: rest => do
      let x ← named? c
      andBefore x (basic? rest)
  | c :: rest => if isPlain c && c != '\\' then andBefore c (basic? rest) else none

/-- Whether a line ends after some blanks. -/
def endsLine (cs : List Char) : Bool := (lineBreak? (skipBlanks cs)).isSome

/-- A string on several lines, after its opening marks. Up to two marks may stand before those that
close it. The flag says whether blanks and line breaks are passed over, as they are after a
backslash at the end of a line. -/
def basicLines? : Bool → Reader (List Char)
  | _, [] => none
  | _, '"' :: '"' :: '"' :: '"' :: '"' :: rest => some (['"', '"'], rest)
  | _, '"' :: '"' :: '"' :: '"' :: rest => some (['"'], rest)
  | _, '"' :: '"' :: '"' :: rest => some ([], rest)
  | passing, '\r' :: '\n' :: rest =>
      if passing then basicLines? true rest else andBefore '\n' (basicLines? false rest)
  | passing, '\n' :: rest =>
      if passing then basicLines? true rest else andBefore '\n' (basicLines? false rest)
  | _, '\\' :: 'u' :: a :: b :: c :: d :: rest => do
      let x ← numbered? [a, b, c, d]
      andBefore x (basicLines? false rest)
  | _, '\\' :: 'U' :: a :: b :: c :: d :: e :: f :: g :: h :: rest => do
      let x ← numbered? [a, b, c, d, e, f, g, h]
      andBefore x (basicLines? false rest)
  | _, '\\' :: c :: rest =>
      if endsLine (c :: rest) then basicLines? true (c :: rest)
      else do
        let x ← named? c
        andBefore x (basicLines? false rest)
  | passing, c :: rest =>
      if passing && isBlank c then basicLines? true rest
      else if isPlain c && c != '\\' then andBefore c (basicLines? false rest)
      else none

/-- A string without escapes on one line, after its opening mark. -/
def literal? : Reader (List Char)
  | [] => none
  | '\'' :: rest => some ([], rest)
  | c :: rest => if isPlain c then andBefore c (literal? rest) else none

/-- A string without escapes on several lines, after its opening marks. -/
def literalLines? : Reader (List Char)
  | [] => none
  | '\'' :: '\'' :: '\'' :: '\'' :: '\'' :: rest => some (['\'', '\''], rest)
  | '\'' :: '\'' :: '\'' :: '\'' :: rest => some (['\''], rest)
  | '\'' :: '\'' :: '\'' :: rest => some ([], rest)
  | '\r' :: '\n' :: rest => andBefore '\n' (literalLines? rest)
  | '\n' :: rest => andBefore '\n' (literalLines? rest)
  | c :: rest => if isPlain c then andBefore c (literalLines? rest) else none

/-- Drops the line break that may follow the opening marks of a string on several lines. -/
def afterMarks (cs : List Char) : List Char := (lineBreak? cs).getD cs

/-- A string of any kind. -/
def string? : Reader (List Char)
  | '"' :: '"' :: '"' :: cs => basicLines? false (afterMarks cs)
  | '"' :: cs => basic? cs
  | '\'' :: '\'' :: '\'' :: cs => literalLines? (afterMarks cs)
  | '\'' :: cs => literal? cs
  | _ => none

/-! ### Keys -/

/-- How deep tables and arrays may be nested, and how many parts a key may have: fewer than this. -/
def maxDepth : Nat := 80

/-- Whether a character may stand in a key without marks. -/
def isBare (c : Char) : Bool := c.isAlphanum || c = '-' || c = '_'

/-- A part of a key: a string on one line, or a word of letters, digits, hyphens and underscores. -/
def keyPart? : Reader String
  | '"' :: cs => (basic? cs).map fun (s, rest) => (String.ofList s, rest)
  | '\'' :: cs => (literal? cs).map fun (s, rest) => (String.ofList s, rest)
  | cs =>
      match cs.takeWhile isBare with
      | [] => none
      | word => some (String.ofList word, cs.dropWhile isBare)

/-- The parts of a key, with points between them. Every part has a character. -/
def keyParts? : Nat → Reader (List String)
  | 0, _ => none
  | fuel + 1, cs => do
      let (part, rest) ← keyPart? (skipBlanks cs)
      match skipBlanks rest with
      | '.' :: rest => do
          let (parts, rest) ← keyParts? fuel rest
          some (part :: parts, rest)
      | rest => some ([part], rest)

/-- A key, as the parts before the last and the last. -/
def key? (cs : List Char) : Option ((List String × String) × List Char) := do
  let (parts, rest) ← keyParts? (cs.length + 1) cs
  let last ← parts.getLast?
  if parts.length < maxDepth then some ((parts.dropLast, last), rest) else none

end RadioFrame.Toml
