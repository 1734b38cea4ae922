import RadioFrame.Json.Numeral
import RadioFrame.Text.Hex

/-!
The tokens of JSON text.

Text is cut into tokens from the front; blanks between them are dropped. The first thing that begins
no token ends the list with the token `malformed`, so that a reader who stops before it never
notices. Whether the escapes of a text name characters, and whether a number is too large, is left
to the reader: both do not matter for what is passed over.
-/

namespace RadioFrame.Json

/-- The tokens. -/
inductive Token where
  | leftBrace
  | rightBrace
  | leftBracket
  | rightBracket
  | comma
  | colon
  | null
  | bool (b : Bool)
  | number (n : Numeral)
  /-- A text; nothing if an escape in it names half of a surrogate pair. -/
  | text (content : Option String)
  /-- Something that is no token. -/
  | malformed
  deriving DecidableEq, Repr

/-! ### Texts -/

/-- The value of four hexadecimal digits. -/
def fourDigits? (a b c d : Char) : Option Nat := do
  let a ← Hex.digitValue? a
  let b ← Hex.digitValue? b
  let c ← Hex.digitValue? c
  let d ← Hex.digitValue? d
  some (((a * 16 + b) * 16 + c) * 16 + d)

/-- A piece of a text: a character that stands for itself or is named by a letter, or a number given
by four digits. -/
inductive Piece where
  | char (c : Char)
  | unit (n : Nat)
  deriving DecidableEq, Repr

/-- The character named by a letter after a backslash. -/
def namedChar? : Char → Option Char
  | '"' => some '"'
  | '\\' => some '\\'
  | '/' => some '/'
  | 'b' => some '\x08'
  | 'f' => some '\x0c'
  | 'n' => some '\n'
  | 'r' => some '\r'
  | 't' => some '\t'
  | _ => none

/-- The pieces of a text up to its closing quotation mark, and what follows it. A control character
cannot stand in a text. -/
def scanText? : List Char → Option (List Piece × List Char)
  | [] => none
  | '"' :: rest => some ([], rest)
  | '\\' :: 'u' :: a :: b :: c :: d :: rest => do
      let n ← fourDigits? a b c d
      let (ps, rest) ← scanText? rest
      some (.unit n :: ps, rest)
  | '\\' :: c :: rest => do
      let c ← namedChar? c
      let (ps, rest) ← scanText? rest
      some (.char c :: ps, rest)
  | c :: rest =>
      if c.toNat < 32 ∨ c = '\\' then none
      else do
        let (ps, rest) ← scanText? rest
        some (.char c :: ps, rest)

/-- The characters of some pieces. Two numbers that are the halves of a surrogate pair make one
character; half a pair makes none. -/
def joinPieces? : List Piece → Option (List Char)
  | [] => some []
  | .char c :: ps => (joinPieces? ps).map (c :: ·)
  | .unit n :: ps =>
      if 0xDC00 ≤ n ∧ n ≤ 0xDFFF then none
      else if 0xD800 ≤ n ∧ n ≤ 0xDBFF then
        match ps with
        | .unit m :: ps =>
            if 0xDC00 ≤ m ∧ m ≤ 0xDFFF then
              (joinPieces? ps).map
                (Char.ofNat (0x10000 + (n - 0xD800) * 0x400 + (m - 0xDC00)) :: ·)
            else none
        | _ => none
      else (joinPieces? ps).map (Char.ofNat n :: ·)

/-! ### Numbers -/

/-- The digits at the front of some characters, and what follows them. -/
def takeDigits (cs : List Char) : List Char × List Char :=
  (cs.takeWhile Char.isDigit, cs.dropWhile Char.isDigit)

/-- The fraction at the front of some characters, if there is one: a point and at least one
digit. -/
def scanFraction? : List Char → Option (Option (List Char) × List Char)
  | '.' :: cs =>
      let (ds, rest) := takeDigits cs
      if ds = [] then none else some (some ds, rest)
  | cs => some (none, cs)

/-- The sign at the front of some characters: whether there is a minus sign. -/
def scanSign : List Char → Bool × List Char
  | '-' :: cs => (true, cs)
  | '+' :: cs => (false, cs)
  | cs => (false, cs)

/-- The exponent at the front of some characters, if there is one: its letter, a sign if any, and at
least one digit. -/
def scanExponent? (cs : List Char) : Option (Option (Bool × List Char) × List Char) :=
  match cs with
  | [] => some (none, [])
  | c :: rest =>
      if c = 'e' ∨ c = 'E' then
        let (negative, rest) := scanSign rest
        let (ds, rest) := takeDigits rest
        if ds = [] then none else some (some (negative, ds), rest)
      else some (none, cs)

/-- The numeral at the front of some characters. Only a lone zero begins with zero. -/
def scanNumeral? (cs : List Char) : Option (Numeral × List Char) := do
  let (negative, cs) := match cs with
    | '-' :: cs => (true, cs)
    | cs => (false, cs)
  let (whole, cs) := takeDigits cs
  if whole = [] ∨ (whole.head? = some '0' ∧ 1 < whole.length) then none
  else do
    let (fraction, cs) ← scanFraction? cs
    let (exponent, cs) ← scanExponent? cs
    some (⟨negative, whole, fraction, exponent⟩, cs)

/-! ### All tokens -/

/-- Whether a character may stand between tokens. -/
def isBlank (c : Char) : Bool := c = ' ' || c = '\n' || c = '\t' || c = '\r'

/-- The token at the front of some characters that do not begin with a blank, and what follows. -/
def scanToken? : List Char → Option (Token × List Char)
  | [] => none
  | '\x7b' :: cs => some (.leftBrace, cs)
  | '\x7d' :: cs => some (.rightBrace, cs)
  | '[' :: cs => some (.leftBracket, cs)
  | ']' :: cs => some (.rightBracket, cs)
  | ',' :: cs => some (.comma, cs)
  | ':' :: cs => some (.colon, cs)
  | 'n' :: 'u' :: 'l' :: 'l' :: cs => some (.null, cs)
  | 't' :: 'r' :: 'u' :: 'e' :: cs => some (.bool true, cs)
  | 'f' :: 'a' :: 'l' :: 's' :: 'e' :: cs => some (.bool false, cs)
  | '"' :: cs => do
      let (ps, rest) ← scanText? cs
      some (.text ((joinPieces? ps).map String.ofList), rest)
  | cs => do
      let (n, rest) ← scanNumeral? cs
      some (.number n, rest)

/-- The tokens of some characters. Every token has a character, so that there are no more tokens
than characters. -/
def scanTokens : Nat → List Char → List Token
  | 0, _ => []
  | fuel + 1, cs =>
      match cs.dropWhile isBlank with
      | [] => []
      | cs =>
          match scanToken? cs with
          | some (t, rest) => t :: scanTokens fuel rest
          | none => [.malformed]

/-- The tokens of a text. -/
def scan (s : String) : List Token := scanTokens s.length s.toList

end RadioFrame.Json
