import RadioFrame.Toml.Moment
import RadioFrame.Toml.Numeral

/-!
TOML documents: what stands under which key.

A document is kept as a list of places, each the way to it from the top, with what was put there: a
value, or one of the kinds of table. The kinds differ in what may be added later:

* a table with a header of its own cannot get another, nor be reached by a key with points;
* one that a header passed through can still get a header;
* one that a key with points made can only be reached by such keys, and be passed through;
* a list of tables grows by headers in double brackets, and its last table is the one reached.

What a value is, is kept as far as settings can be made of it.
-/

namespace RadioFrame.Toml

/-! ### Values -/

/-- A value. -/
inductive Value where
  | text (s : String)
  | integer (n : Int)
  | bool (b : Bool)
  /-- A number that is not whole, or not written as one. -/
  | real
  /-- A date or a time. -/
  | moment
  | array
  | table
  deriving DecidableEq, Repr

/-! ### Places -/

/-- A step on the way to a place. -/
inductive Step where
  /-- To what a key names. -/
  | key (name : String)
  /-- To a table of a list of tables. -/
  | item (index : Nat)
  deriving DecidableEq, Repr

/-- What was put at a place. -/
inductive Entry where
  | value (v : Value)
  /-- A table with a header. -/
  | headed
  /-- A table that a header passed through. -/
  | passed
  /-- A table that a key with points made. -/
  | dotted
  /-- A list of tables. -/
  | list (count : Nat)
  deriving DecidableEq, Repr

/-- The places of a document. -/
abbrev Store := List (List Step × Entry)

namespace Store

/-- What was put at a place. -/
def find? (s : Store) (place : List Step) : Option Entry := s.lookup place

/-- Puts something at a place. -/
def put (s : Store) (place : List Step) (e : Entry) : Store := (place, e) :: s

/-- Goes from a table to the one that a key names, which is made if nothing is there. The flag says
whether this happens for a key with points. -/
def enter? (byKey : Bool) (s : Store) (place : List Step) (name : String) :
    Option (Store × List Step) :=
  let next := place ++ [.key name]
  match s.find? next with
  | none => some (s.put next (if byKey then .dotted else .passed), next)
  | some (.value _) => none
  | some .headed => if byKey then none else some (s, next)
  | some .passed | some .dotted => some (s, next)
  | some (.list count) => some (s, next ++ [.item (count - 1)])

/-- Goes along several keys. -/
def enterAll? (byKey : Bool) : Store → List Step → List String → Option (Store × List Step)
  | s, place, [] => some (s, place)
  | s, place, name :: names => do
      let (s, next) ← s.enter? byKey place name
      enterAll? byKey s next names

/-- Puts a value under a key of a table. Nothing may be there yet, and the table that the last of
several parts is put into has to be made by such keys. -/
def assign? (s : Store) (table : List Step) (key : List String × String) (v : Value) :
    Option Store := do
  let (s, place) ← s.enterAll? true table key.1
  if !key.1.isEmpty && s.find? place != some .dotted then none
  else
    let place := place ++ [.key key.2]
    match s.find? place with
    | none => some (s.put place (.value v))
    | some _ => none

/-- Begins a table: gives the place of the table that a header names. -/
def openTable? (s : Store) (key : List String × String) : Option (Store × List Step) := do
  let (s, place) ← s.enterAll? false [] key.1
  let place := place ++ [.key key.2]
  match s.find? place with
  | none | some .passed => some (s.put place .headed, place)
  | some _ => none

/-- Begins another table of a list of tables. -/
def openItem? (s : Store) (key : List String × String) : Option (Store × List Step) := do
  let (s, place) ← s.enterAll? false [] key.1
  let place := place ++ [.key key.2]
  match s.find? place with
  | none => some (s.put place (.list 1), place ++ [.item 0])
  | some (.list count) => some (s.put place (.list (count + 1)), place ++ [.item count])
  | some _ => none

end Store

/-! ### Reading values -/

/-- Elements with commas between, up to a closing bracket; there may be a comma after the last.
Every element has a character. -/
def elements? (read : Reader Value) : Nat → List Char → Option (List Char)
  | 0, _ => none
  | fuel + 1, cs => do
      match ← skipSpace? false cs with
      | ']' :: rest => some rest
      | cs => do
          let (_, cs) ← read cs
          match ← skipSpace? false cs with
          | ',' :: rest => elements? read fuel rest
          | ']' :: rest => some rest
          | _ => none

/-- A key with its value. -/
def pair? (read : Reader Value) (cs : List Char) :
    Option (((List String × String) × Value) × List Char) := do
  let (key, cs) ← key? cs
  let cs ← char? '=' cs
  let (v, rest) ← read (skipBlanks cs)
  some ((key, v), rest)

/-- Members with commas between, up to a closing brace. Every member has a character. -/
def members? (read : Reader Value) : Nat → Store → List Char → Option (List Char)
  | 0, _, _ => none
  | fuel + 1, s, cs => do
      let ((key, v), cs) ← pair? read cs
      let s ← s.assign? [] key v
      match skipBlanks cs with
      | ',' :: rest => members? read fuel s rest
      | '\x7d' :: rest => some rest
      | _ => none

/-- A number, a date or a time: the first reading that fits. -/
def number? (cs : List Char) : Option (Value × List Char) :=
  match moment? cs with
  | some rest => some (.moment, rest)
  | none =>
      match decimal? cs with
      | some rest => some (.real, rest)
      | none =>
          match special? cs with
          | some rest => some (.real, rest)
          | none => (integer? cs).map fun (n, rest) => (.integer n, rest)

/-- A value with a given room for nested arrays and tables. -/
def value? : Nat → Reader Value
  | _, 't' :: 'r' :: 'u' :: 'e' :: rest => some (.bool true, rest)
  | _, 'f' :: 'a' :: 'l' :: 's' :: 'e' :: rest => some (.bool false, rest)
  | 0, '[' :: _ | 0, '\x7b' :: _ => none
  | room + 1, '[' :: cs =>
      (elements? (value? room) (cs.length + 1) cs).map fun rest => (.array, rest)
  | room + 1, '\x7b' :: cs =>
      match skipBlanks cs with
      | '\x7d' :: rest => some (.table, rest)
      | cs => (members? (value? room) (cs.length + 1) [] cs).map fun rest => (.table, rest)
  | _, cs =>
      match cs with
      | '"' :: _ | '\'' :: _ => (string? cs).map fun (s, rest) => (.text (String.ofList s), rest)
      | _ => number? cs

/-! ### Reading documents -/

/-- A header: two brackets on either side begin a table of a list of tables. -/
def header? (s : Store) : List Char → Option ((Store × List Step) × List Char)
  | '[' :: '[' :: cs => do
      let (key, cs) ← key? cs
      let cs ← char? ']' cs
      let cs ← char? ']' cs
      let opened ← s.openItem? key
      some (opened, cs)
  | '[' :: cs => do
      let (key, cs) ← key? cs
      let cs ← char? ']' cs
      let opened ← s.openTable? key
      some (opened, cs)
  | _ => none

/-- The lines of a document, from one that stands in a given table. Every line has a character. -/
def lines? : Nat → Store → List Step → List Char → Option Store
  | 0, s, _, _ => some s
  | fuel + 1, s, table, cs =>
      match skipBlanks cs with
      | [] => some s
      | '[' :: cs => do
          let ((s, table), cs) ← header? s ('[' :: cs)
          let cs ← endLine? cs
          lines? fuel s table cs
      | cs =>
          match endLine? cs with
          | some rest => lines? fuel s table rest
          | none => do
              let ((key, v), cs) ← pair? (value? (maxDepth - 1)) cs
              let s ← s.assign? table key v
              let cs ← endLine? cs
              lines? fuel s table cs

/-- The document that a text spells. A mark of byte order at its front is passed over. -/
def document? (cs : List Char) : Option Store :=
  let cs := match cs with
    | '\ufeff' :: cs => cs
    | cs => cs
  lines? (cs.length + 1) [] [] cs

end RadioFrame.Toml
