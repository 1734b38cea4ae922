/-!
JSON values and how they are written.

A value is written either on one line without blanks or on indented lines, two blanks a level.
Numbers are whole; the members of an object keep their order.
-/

namespace RadioFrame.Json

mutual

/-- A JSON value. -/
inductive Value where
  | null
  | bool (b : Bool)
  | number (n : Int)
  | text (s : String)
  | array (elements : Elements)
  | object (members : Members)

/-- The elements of an array. -/
inductive Elements where
  | nil
  | cons (value : Value) (rest : Elements)

/-- The members of an object. -/
inductive Members where
  | nil
  | cons (key : String) (value : Value) (rest : Members)

end

/-- The elements of a list. -/
def Elements.ofList : List Value → Elements
  | [] => .nil
  | v :: vs => .cons v (ofList vs)

/-- The members of a list. -/
def Members.ofList : List (String × Value) → Members
  | [] => .nil
  | (k, v) :: ms => .cons k v (ofList ms)

namespace Value

/-- The array of given elements. -/
def ofElements (vs : List Value) : Value := .array (.ofList vs)

/-- The object of given members. -/
def ofMembers (ms : List (String × Value)) : Value := .object (.ofList ms)

/-- The object of a single member. -/
def tagged (key : String) (v : Value) : Value := .object (.cons key v .nil)

/-- The array of the numbers of some bytes. -/
def ofBytes (bytes : List UInt8) : Value := ofElements (bytes.map fun b => .number b.toNat)

end Value

/-! ### Writing -/

/-- The ways of writing a value. -/
inductive Layout where
  /-- On one line, without blanks. -/
  | compact
  /-- On indented lines. -/
  | indented
  deriving DecidableEq, Repr

namespace Layout

/-- What goes before an element at a depth, and before the bracket that closes it. -/
def lineBreak : Layout → Nat → List Char
  | compact, _ => []
  | indented, depth => '\n' :: List.replicate (2 * depth) ' '

/-- What goes between a key and its value. -/
def colon : Layout → List Char
  | compact => [':']
  | indented => [':', ' ']

end Layout

/-- A character of a text: the quotation mark, the backslash and the control characters are written
after a backslash, the latter by a letter if they have one. -/
def escape (c : Char) : List Char :=
  match c with
  | '"' => ['\\', '"']
  | '\\' => ['\\', '\\']
  | '\x08' => ['\\', 'b']
  | '\x0c' => ['\\', 'f']
  | '\n' => ['\\', 'n']
  | '\r' => ['\\', 'r']
  | '\t' => ['\\', 't']
  | c =>
      if c.toNat < 32 then
        ['\\', 'u', '0', '0', Nat.digitChar (c.toNat / 16), Nat.digitChar (c.toNat % 16)]
      else [c]

/-- A text between quotation marks. -/
def writeText (s : String) : List Char := '"' :: s.toList.flatMap escape ++ ['"']

/-- A whole number. -/
def writeNumber : Int → List Char
  | .ofNat n => Nat.toDigits 10 n
  | .negSucc n => '-' :: Nat.toDigits 10 (n + 1)

mutual

/-- Writes a value that stands at a depth. -/
def Value.write (layout : Layout) (depth : Nat) : Value → List Char
  | .null => ['n', 'u', 'l', 'l']
  | .bool true => ['t', 'r', 'u', 'e']
  | .bool false => ['f', 'a', 'l', 's', 'e']
  | .number n => writeNumber n
  | .text s => writeText s
  | .array .nil => ['[', ']']
  | .array vs =>
      '[' :: vs.write layout (depth + 1) ++ layout.lineBreak depth ++ [']']
  | .object .nil => ['\x7b', '\x7d']
  | .object ms =>
      '\x7b' :: ms.write layout (depth + 1) ++ layout.lineBreak depth ++ ['\x7d']

/-- Writes elements that stand at a depth, with commas between. -/
def Elements.write (layout : Layout) (depth : Nat) : Elements → List Char
  | .nil => []
  | .cons v .nil => layout.lineBreak depth ++ v.write layout depth
  | .cons v vs =>
      layout.lineBreak depth ++ v.write layout depth ++ ',' :: vs.write layout depth

/-- Writes members that stand at a depth, with commas between. -/
def Members.write (layout : Layout) (depth : Nat) : Members → List Char
  | .nil => []
  | .cons k v .nil =>
      layout.lineBreak depth ++ writeText k ++ layout.colon ++ v.write layout depth
  | .cons k v ms =>
      layout.lineBreak depth ++ writeText k ++ layout.colon ++ v.write layout depth ++
        ',' :: ms.write layout depth

end

/-- A value as text. -/
def Value.render (layout : Layout) (v : Value) : String := String.ofList (v.write layout 0)

end RadioFrame.Json
