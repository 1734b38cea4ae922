import RadioFrame.Json.Fault
import RadioFrame.Json.Token
import RadioFrame.Row

/-!
Reading typed values from tokens.

A reader takes the tokens of its value from the front and gives back those that follow. Tokens are
looked at one after the other, so that of several faults the first in the text is told.

* A record is an object, in any order and with unknown members passed over, or an array of its
  values in order. What may be absent has a value for that case.
* A variant is a name alone, or an object of one member whose key is the name.
-/

namespace RadioFrame.Json

/-- A reader of values. -/
abbrev Reader (α : Type) := List Token → Except Fault (α × List Token)

/-- A complaint as a fault. -/
def complain {α : Type} (c : Complaint) : Except Fault α := .error (.complaint c)

/-- The fault of tokens that begin with something other than what was expected. -/
def mismatch {α : Type} (expected : String) : List Token → Except Fault α
  | .null :: _ => complain (.wrongType .null expected)
  | .bool b :: _ => complain (.wrongType (.bool b) expected)
  | .number n :: _ =>
      match n.value? with
      | some v => complain (.wrongType (.number v) expected)
      | none => .error .malformed
  | .text (some s) :: _ => complain (.wrongType (.text s) expected)
  | .leftBracket :: _ => complain (.wrongType .sequence expected)
  | .leftBrace :: _ => complain (.wrongType .map expected)
  | _ => .error .malformed

namespace Reader

/-! ### Simple values -/

/-- A whole number that some function accepts. -/
def number {α : Type} (accept : Int → Option α) (expected : String) : Reader α
  | .number n :: rest =>
      match n.value? with
      | none => .error .malformed
      | some (.integer i) =>
          match accept i with
          | some a => .ok (a, rest)
          | none => complain (.outOfRange i expected)
      | some v => complain (.wrongType (.number v) expected)
  | tokens => mismatch expected tokens

/-- A truth value. -/
def bool : Reader Bool
  | .bool b :: rest => .ok (b, rest)
  | tokens => mismatch "a boolean" tokens

/-- A text that some function accepts. -/
def text {α : Type} (accept : String → Except Complaint α) (expected : String) : Reader α
  | .text (some s) :: rest =>
      match accept s with
      | .ok a => .ok (a, rest)
      | .error c => complain c
  | tokens => mismatch expected tokens

/-- Nothing at all. -/
def unit : Reader Unit
  | .null :: rest => .ok ((), rest)
  | tokens => mismatch "unit" tokens

/-- A value or `null`. -/
def nullable {α : Type} (r : Reader α) : Reader (Option α)
  | .null :: rest => .ok (none, rest)
  | tokens => do
      let (a, rest) ← r tokens
      .ok (some a, rest)

/-! ### Arrays -/

/-- The tokens of the next element of an array, nothing at its end. A comma has to stand between two
elements, and none after the last. -/
def nextElement (isFirst : Bool) : List Token → Except Fault (Option (List Token))
  | .rightBracket :: _ => .ok none
  | tokens =>
      if isFirst then .ok (some tokens)
      else match tokens with
        | .comma :: .rightBracket :: _ => .error .malformed
        | .comma :: rest => .ok (some rest)
        | _ => .error .malformed

/-- The bracket that closes an array. -/
def closeArray {α : Type} (a : α) : List Token → Except Fault (α × List Token)
  | .rightBracket :: rest => .ok (a, rest)
  | _ => .error .malformed

/-- Elements up to the end of an array. Every element has a token. -/
def elements {α : Type} (r : Reader α) :
    Nat → Bool → List Token → Except Fault (List α × List Token)
  | 0, _, tokens => .ok ([], tokens)
  | fuel + 1, isFirst, tokens => do
      match ← nextElement isFirst tokens with
      | none => .ok ([], tokens)
      | some tokens => do
          let (a, rest) ← r tokens
          let (as, rest) ← elements r fuel false rest
          .ok (a :: as, rest)

/-- Elements up to the end of an array, each taken in as soon as it is read: what is wrong with it
is told before anything that follows. Every element has a token. -/
def gather {α σ : Type} (r : Reader α) (step : σ → α → Except Complaint σ) :
    Nat → Bool → σ → List Token → Except Fault (σ × List Token)
  | 0, _, s, tokens => .ok (s, tokens)
  | fuel + 1, isFirst, s, tokens => do
      match ← nextElement isFirst tokens with
      | none => .ok (s, tokens)
      | some tokens => do
          let (a, rest) ← r tokens
          match step s a with
          | .ok s => gather r step fuel false s rest
          | .error c => complain c

/-- What the elements of an array make, one after the other. -/
def fold {α σ : Type} (r : Reader α) (step : σ → α → Except Complaint σ) (start : σ) : Reader σ
  | .leftBracket :: tokens => do
      let (s, rest) ← gather r step tokens.length true start tokens
      closeArray s rest
  | tokens => mismatch "a sequence" tokens

/-- An array of any length. -/
def list {α : Type} (r : Reader α) : Reader (List α)
  | .leftBracket :: tokens => do
      let (as, rest) ← elements r tokens.length true tokens
      closeArray as rest
  | tokens => mismatch "a sequence" tokens

/-- A given number of elements, of which `before` others were read. -/
def elementsExactly {α : Type} (r : Reader α) (expected : String) :
    Nat → Nat → List Token → Except Fault (List α × List Token)
  | 0, _, tokens => .ok ([], tokens)
  | count + 1, before, tokens => do
      match ← nextElement (before = 0) tokens with
      | none => complain (.wrongLength before expected)
      | some tokens => do
          let (a, rest) ← r tokens
          let (as, rest) ← elementsExactly r expected count (before + 1) rest
          .ok (a :: as, rest)

/-- An array of a given length. -/
def array {α : Type} (r : Reader α) (length : Nat) : Reader (List α)
  | .leftBracket :: tokens => do
      let (as, rest) ← elementsExactly r s!"an array of length {length}" length 0 tokens
      closeArray as rest
  | tokens => mismatch s!"an array of length {length}" tokens

/-! ### Passing over -/

/-- Where in a value that is passed over the tokens stand. -/
inductive Place where
  /-- Before a value. -/
  | value
  /-- Before the first element of an array, or its end. -/
  | firstElement
  /-- Before the first key of an object, or its end. -/
  | firstKey
  /-- Before a key. -/
  | key
  /-- Before a colon. -/
  | colon
  /-- After a value. -/
  | done
  deriving DecidableEq, Repr

/-- The brackets that can be open. -/
inductive Bracket where
  | array
  | object
  deriving DecidableEq, Repr

/-- Passes over a value, whatever its depth, and gives the tokens after it: nothing if it is not
well formed. The list holds the open brackets, innermost first. -/
def pass? : Place → List Bracket → List Token → Option (List Token)
  | .done, [], tokens => some tokens
  | _, _, [] => none
  | .value, brackets, t :: ts =>
      match t with
      | .null | .bool _ | .number _ | .text _ => pass? .done brackets ts
      | .leftBracket => pass? .firstElement (.array :: brackets) ts
      | .leftBrace => pass? .firstKey (.object :: brackets) ts
      | _ => none
  | .firstElement, brackets, t :: ts =>
      match t with
      | .rightBracket => pass? .done brackets.tail ts
      | .null | .bool _ | .number _ | .text _ => pass? .done brackets ts
      | .leftBracket => pass? .firstElement (.array :: brackets) ts
      | .leftBrace => pass? .firstKey (.object :: brackets) ts
      | _ => none
  | .firstKey, brackets, t :: ts =>
      match t with
      | .rightBrace => pass? .done brackets.tail ts
      | .text _ => pass? .colon brackets ts
      | _ => none
  | .key, brackets, t :: ts =>
      match t with
      | .text _ => pass? .colon brackets ts
      | _ => none
  | .colon, brackets, t :: ts =>
      match t with
      | .colon => pass? .value brackets ts
      | _ => none
  | .done, b :: brackets, t :: ts =>
      match b, t with
      | .array, .comma => pass? .value (b :: brackets) ts
      | .object, .comma => pass? .key (b :: brackets) ts
      | .array, .rightBracket => pass? .done brackets ts
      | .object, .rightBrace => pass? .done brackets ts
      | _, _ => none

/-- Passes over a value. -/
def pass (tokens : List Token) : Except Fault (List Token) :=
  match pass? .value [] tokens with
  | some rest => .ok rest
  | none => .error .malformed

/-! ### Records -/

end Reader

/-- A field of a record. -/
structure RecordField (α : Type) where
  /-- Its name. -/
  name : String
  /-- How it is read. -/
  read : Reader α
  /-- Its value when it is absent, if it may be. -/
  absent : Option α

namespace Reader

section Records

variable {ι : Type} {V : ι → Type} (field : ∀ i, RecordField (V i))

/-- How many elements a record has, in words. -/
def countWords (n : Nat) : String := if n = 1 then "1 element" else s!"{n} elements"

/-- The fields of a record written as an array, of which `before` others were read. A field that
may be absent can be left out at the end. -/
def fieldsInOrder (expected : String) :
    (is : List ι) → Nat → Bool → List Token → Except Fault (Row V is × List Token)
  | [], _, _, tokens => .ok ((), tokens)
  | i :: is, before, isFirst, tokens => do
      match ← nextElement isFirst tokens with
      | none =>
          match (field i).absent with
          | some v => do
              let (row, rest) ← fieldsInOrder expected is (before + 1) isFirst tokens
              .ok ((v, row), rest)
          | none => complain (.wrongLength before expected)
      | some tokens => do
          let (v, rest) ← (field i).read tokens
          let (row, rest) ← fieldsInOrder expected is (before + 1) false rest
          .ok ((v, row), rest)

/-- The colon after a key. -/
def colon : List Token → Except Fault (List Token)
  | .colon :: rest => .ok rest
  | _ => .error .malformed

/-- How the value of a member changes the fields read so far; nothing if no field has its name. -/
def member? (name : String) :
    (is : List ι) → Row (fun i => Option (V i)) is →
      Option (List Token → Except Fault (Row (fun i => Option (V i)) is × List Token))
  | [], _ => none
  | i :: is, (v, row) =>
      if (field i).name = name then
        some fun tokens =>
          match v with
          | some _ => complain (.duplicateField name)
          | none => do
              let tokens ← colon tokens
              let (v, rest) ← (field i).read tokens
              .ok ((some v, row), rest)
      else
        (member? name is row).map fun next tokens => do
          let (row, rest) ← next tokens
          .ok ((v, row), rest)

/-- The tokens from the next key of an object on, nothing at its end. -/
def nextKey (isFirst : Bool) : List Token → Except Fault (Option (List Token))
  | .rightBrace :: _ => .ok none
  | tokens =>
      if isFirst then .ok (some tokens)
      else match tokens with
        | .comma :: rest => .ok (some rest)
        | _ => .error .malformed

/-- The members of an object up to its end. Every member has a token. -/
def members (is : List ι) :
    Nat → Bool → Row (fun i => Option (V i)) is → List Token →
      Except Fault (Row (fun i => Option (V i)) is × List Token)
  | 0, _, row, tokens => .ok (row, tokens)
  | fuel + 1, isFirst, row, tokens => do
      match ← nextKey isFirst tokens with
      | none => .ok (row, tokens)
      | some (.text (some name) :: tokens) =>
          match member? field name is row with
          | some next => do
              let (row, rest) ← next tokens
              members is fuel false row rest
          | none => do
              let tokens ← colon tokens
              let rest ← pass tokens
              members is fuel false row rest
      | some _ => .error .malformed

/-- The fields of a record whose members were read; the first that is absent and may not be is a
fault. -/
def complete : (is : List ι) → Row (fun i => Option (V i)) is → Except Fault (Row V is)
  | [], _ => .ok ()
  | i :: is, (v, row) =>
      match v <|> (field i).absent with
      | some v => do
          let row ← complete is row
          .ok (v, row)
      | none => complain (.missingField (field i).name)

/-- The brace that closes an object. -/
def closeObject {α : Type} (a : α) : List Token → Except Fault (α × List Token)
  | .rightBrace :: rest => .ok (a, rest)
  | _ => .error .malformed

/-- A record of given fields, called by a title where something else stands. -/
def record (title : String) (is : List ι) : Reader (Row V is)
  | .leftBracket :: tokens => do
      let expected := title ++ " with " ++ countWords is.length
      let (row, rest) ← fieldsInOrder field expected is 0 true tokens
      closeArray row rest
  | .leftBrace :: tokens => do
      let start : Row (fun i => Option (V i)) is := Row.ofFn (fun _ => none) is
      let (row, rest) ← members field is tokens.length true start tokens
      let row ← complete field is row
      closeObject row rest
  | tokens => mismatch title tokens

end Records

/-! ### Variants -/

end Reader

/-- What a variant carries. -/
inductive Carried (α : Type) where
  /-- Nothing: the name is enough. -/
  | nothing (a : α)
  /-- A value of its own. -/
  | value (read : Reader α)
  /-- A record. -/
  | record (read : Reader α)

namespace Reader

/-- A variant whose name stands alone. -/
def bare {α : Type} (rest : List Token) : Carried α → Except Fault (α × List Token)
  | .nothing a => .ok (a, rest)
  | .value _ => complain (.wrongType .bareVariant "newtype variant")
  | .record _ => complain (.wrongType .bareVariant "struct variant")

/-- What a variant carries, after its name and a colon. -/
def carried {α : Type} (tokens : List Token) : Carried α → Except Fault (α × List Token)
  | .nothing a => do
      let ((), rest) ← unit tokens
      .ok (a, rest)
  | .value read => read tokens
  | .record read => read tokens

/-- The place of a name in a list of possible names. -/
def identify {ι : Type} (name : ι → String) (is : List ι) (s : String) :
    Except Fault (Fin is.length) :=
  match is.findFinIdx? fun i => name i = s with
  | some k => .ok k
  | none => complain (.unknownVariant s (is.map name))

/-- One of several variants. -/
def variant {ι α : Type} (name : ι → String) (is : List ι) (content : Fin is.length → Carried α) :
    Reader α
  | .text (some s) :: rest => do
      let k ← identify name is s
      bare rest (content k)
  | .leftBrace :: .text (some s) :: tokens => do
      let k ← identify name is s
      let tokens ← colon tokens
      let (a, rest) ← carried tokens (content k)
      closeObject a rest
  | .leftBrace :: tokens => mismatch "variant identifier" tokens
  | _ => .error .malformed

/-! ### Whole texts -/

/-- Reads a text that holds one value and nothing else. -/
def run {α : Type} (r : Reader α) (text : String) : Except Fault α :=
  match r (scan text) with
  | .ok (a, []) => .ok a
  | .ok (_, _ :: _) => .error .malformed
  | .error e => .error e

end Reader

end RadioFrame.Json
