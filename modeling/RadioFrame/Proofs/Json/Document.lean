import Mathlib.Data.List.Chain
import RadioFrame.Json.Reader
import RadioFrame.Proofs.Json.Scan

/-!
JSON documents of any origin.

A written value (`Value`) has whole numbers and texts that are characters. A document has any
numerals, and texts that need not name characters; it keeps the order of what stands in it, and
names may stand in it twice. Every written value is a document (`Document.ofValue`) with the same
tokens.

* `Document.pass_tokens`: a document is passed over as a whole, whatever stands in it;
* `Document.isChain_tokens`: no two numbers stand side by side in its tokens, so that they are told
  apart without blanks.
-/

namespace RadioFrame.Json

/-! ### Tokens side by side -/

/-- Whether a token is a number. -/
def Token.isNumber : Token → Bool
  | .number _ => true
  | _ => false

/-- Two tokens of which one is no number. -/
def Token.Apart (t u : Token) : Prop := t.isNumber = false ∨ u.isNumber = false

/-- Tokens with no two numbers side by side, and none in front. -/
def Behind (ts : List Token) : Prop :=
  ts.IsChain Token.Apart ∧ ∀ t ∈ ts.head?, t.isNumber = false

lemma isChain_mark {t : Token} {ts : List Token} (ht : t.isNumber = false)
    (h : ts.IsChain Token.Apart) : (t :: ts).IsChain Token.Apart :=
  List.isChain_cons.mpr ⟨fun _ _ => .inl ht, h⟩

lemma Behind.mark {t : Token} {ts : List Token} (ht : t.isNumber = false)
    (h : ts.IsChain Token.Apart) : Behind (t :: ts) := by
  refine ⟨isChain_mark ht h, ?_⟩
  rintro _ ⟨⟩
  exact ht

/-! ### Documents -/

/-- A JSON document. -/
inductive Document where
  | null
  | bool (b : Bool)
  | number (n : Numeral)
  /-- A text; nothing if an escape in it names half of a surrogate pair. -/
  | text (content : Option String)
  | array (elements : List Document)
  | object (entries : List (Option String × Document))

namespace Document

/-! ### Tokens -/

mutual

/-- The tokens of a document. -/
def tokens : Document → List Token
  | null => [.null]
  | bool b => [.bool b]
  | number n => [.number n]
  | text content => [.text content]
  | array ds => .leftBracket :: elementTokens true ds ++ [.rightBracket]
  | object es => .leftBrace :: entryTokens true es ++ [.rightBrace]

/-- The tokens of elements, a comma before each but the first of all. -/
def elementTokens : Bool → List Document → List Token
  | _, [] => []
  | isFirst, d :: ds => separator isFirst ++ d.tokens ++ elementTokens false ds

/-- The tokens of entries, a comma before each but the first of all. -/
def entryTokens : Bool → List (Option String × Document) → List Token
  | _, [] => []
  | isFirst, (key, d) :: es =>
      separator isFirst ++ .text key :: .colon :: d.tokens ++ entryTokens false es

end

/-- The object of members whose names are characters. -/
def ofMembers (ms : List (String × Document)) : Document := object (ms.map fun m => (some m.1, m.2))

/-- The object of a single member. -/
def tagged (key : String) (d : Document) : Document := object [(some key, d)]

/-- A document has a first token, and it does not close an array. -/
lemma exists_tokens (d : Document) : ∃ t ts, d.tokens = t :: ts ∧ t ≠ .rightBracket := by
  cases d <;> exact ⟨_, _, rfl, nofun⟩

/-! ### Passing over -/

section Pass

open Reader (pass?)

/-- The first element of an array is passed over like any other. -/
lemma pass?_firstElement (brackets : List Reader.Bracket) (d : Document) (rest : List Token) :
    pass? .firstElement brackets (d.tokens ++ rest) = pass? .value brackets (d.tokens ++ rest) := by
  cases d <;> rfl

mutual

/-- A document is passed over, whatever brackets are open before it. -/
lemma pass?_tokens (brackets : List Reader.Bracket) (rest : List Token) :
    ∀ d : Document, pass? .value brackets (d.tokens ++ rest) = pass? .done brackets rest
  | null | bool _ | number _ | text _ => rfl
  | array ds => by
      rw [tokens, List.append_assoc, List.cons_append]
      exact pass?_elementTokens brackets rest true ds
  | object es => by
      rw [tokens, List.append_assoc, List.cons_append]
      exact pass?_entryTokens brackets rest true es

/-- Elements are passed over up to the bracket that closes the array. -/
lemma pass?_elementTokens (brackets : List Reader.Bracket) (rest : List Token) :
    ∀ (isFirst : Bool) (ds : List Document),
      pass? (bif isFirst then .firstElement else .done) (.array :: brackets)
        (elementTokens isFirst ds ++ .rightBracket :: rest) = pass? .done brackets rest
  | true, [] => rfl
  | false, [] => rfl
  | true, d :: ds => by
      have hfirst := pass?_tokens (.array :: brackets)
        (elementTokens false ds ++ .rightBracket :: rest) d
      rw [elementTokens, separator, if_pos rfl, List.nil_append, List.append_assoc, cond_true,
        pass?_firstElement, hfirst]
      exact pass?_elementTokens brackets rest false ds
  | false, d :: ds => by
      have hfirst := pass?_tokens (.array :: brackets)
        (elementTokens false ds ++ .rightBracket :: rest) d
      rw [elementTokens, List.append_assoc, List.append_assoc]
      exact hfirst.trans (pass?_elementTokens brackets rest false ds)

/-- Entries are passed over up to the brace that closes the object. -/
lemma pass?_entryTokens (brackets : List Reader.Bracket) (rest : List Token) :
    ∀ (isFirst : Bool) (es : List (Option String × Document)),
      pass? (bif isFirst then .firstKey else .done) (.object :: brackets)
        (entryTokens isFirst es ++ .rightBrace :: rest) = pass? .done brackets rest
  | true, [] => rfl
  | false, [] => rfl
  | true, (key, d) :: es => by
      have hvalue := pass?_tokens (.object :: brackets)
        (entryTokens false es ++ .rightBrace :: rest) d
      rw [entryTokens, List.append_assoc, List.append_assoc]
      exact hvalue.trans (pass?_entryTokens brackets rest false es)
  | false, (key, d) :: es => by
      have hvalue := pass?_tokens (.object :: brackets)
        (entryTokens false es ++ .rightBrace :: rest) d
      rw [entryTokens, List.append_assoc, List.append_assoc]
      exact hvalue.trans (pass?_entryTokens brackets rest false es)

end

/-- A document is passed over as a whole. -/
lemma pass_tokens (d : Document) (rest : List Token) :
    Reader.pass (d.tokens ++ rest) = .ok rest := by
  have hdone : pass? .done [] rest = some rest := by cases rest <;> rfl
  rw [Reader.pass, pass?_tokens, hdone]

end Pass

/-! ### Numbers side by side -/

mutual

/-- In a document and what follows it no two numbers stand side by side. -/
lemma isChain_append {rest : List Token} (h : Behind rest) :
    ∀ d : Document, (d.tokens ++ rest).IsChain Token.Apart
  | null | bool _ | text _ => isChain_mark rfl h.1
  | number _ => List.isChain_cons.mpr ⟨fun t ht => .inr (h.2 t ht), h.1⟩
  | array [] => isChain_mark rfl (isChain_mark rfl h.1)
  | array (d :: ds) => by
      have hclosed : Behind (.rightBracket :: rest) := .mark rfl h.1
      simp only [tokens, elementTokens, separator, if_true, List.cons_append, List.nil_append,
        List.append_assoc]
      exact isChain_mark rfl (isChain_append (behind_elementTokens hclosed ds) d)
  | object [] => isChain_mark rfl (isChain_mark rfl h.1)
  | object ((key, d) :: es) => by
      have hclosed : Behind (.rightBrace :: rest) := .mark rfl h.1
      have hvalue := isChain_append (behind_entryTokens hclosed es) d
      simp only [tokens, entryTokens, separator, if_true, List.cons_append, List.nil_append,
        List.append_assoc]
      exact isChain_mark rfl (isChain_mark rfl (isChain_mark rfl hvalue))

lemma behind_elementTokens {rest : List Token} (h : Behind rest) :
    ∀ ds : List Document, Behind (elementTokens false ds ++ rest)
  | [] => h
  | d :: ds => by
      rw [elementTokens, List.append_assoc, List.append_assoc]
      exact .mark rfl (isChain_append (behind_elementTokens h ds) d)

lemma behind_entryTokens {rest : List Token} (h : Behind rest) :
    ∀ es : List (Option String × Document), Behind (entryTokens false es ++ rest)
  | [] => h
  | (key, d) :: es => by
      have hvalue := isChain_append (behind_entryTokens h es) d
      rw [entryTokens, List.append_assoc, List.append_assoc]
      exact .mark rfl (isChain_mark rfl (isChain_mark rfl hvalue))

end

/-- No two numbers stand side by side in the tokens of a document. -/
lemma isChain_tokens (d : Document) : d.tokens.IsChain Token.Apart := by
  have hnothing : Behind [] := ⟨List.isChain_nil, nofun⟩
  have htokens := isChain_append hnothing d
  rwa [List.append_nil] at htokens

/-! ### Written values -/

mutual

/-- A written value as a document. -/
def ofValue : Value → Document
  | .null => null
  | .bool b => bool b
  | .number n => number (.ofInt n)
  | .text s => text (some s)
  | .array vs => array (ofElements vs)
  | .object ms => object (ofEntries ms)

/-- Written elements as documents. -/
def ofElements : Elements → List Document
  | .nil => []
  | .cons v vs => ofValue v :: ofElements vs

/-- Written members as entries. -/
def ofEntries : Members → List (Option String × Document)
  | .nil => []
  | .cons key v ms => (some key, ofValue v) :: ofEntries ms

end

mutual

lemma tokens_ofValue : ∀ v : Value, (ofValue v).tokens = v.tokens
  | .null | .bool _ | .number _ | .text _ => rfl
  | .array vs => by rw [ofValue, tokens, Value.tokens, tokens_ofElements]
  | .object ms => by rw [ofValue, tokens, Value.tokens, tokens_ofEntries]

lemma tokens_ofElements :
    ∀ (vs : Elements) (isFirst : Bool), elementTokens isFirst (ofElements vs) = vs.tokens isFirst
  | .nil, _ => rfl
  | .cons v vs, isFirst => by
      rw [ofElements, elementTokens, Elements.tokens, tokens_ofValue, tokens_ofElements]

lemma tokens_ofEntries :
    ∀ (ms : Members) (isFirst : Bool), entryTokens isFirst (ofEntries ms) = ms.tokens isFirst
  | .nil, _ => rfl
  | .cons key v ms, isFirst => by
      rw [ofEntries, entryTokens, Members.tokens, tokens_ofValue, tokens_ofEntries]

end

lemma ofElements_ofList (vs : List Value) : ofElements (.ofList vs) = vs.map ofValue := by
  induction vs with
  | nil => rfl
  | cons v vs ih => exact congrArg (List.cons _) ih

lemma ofEntries_ofList (ms : List (String × Value)) :
    ofEntries (.ofList ms) = ms.map fun m => (some m.1, ofValue m.2) := by
  induction ms with
  | nil => rfl
  | cons m ms ih => exact congrArg (List.cons _) ih

lemma ofValue_ofElements (vs : List Value) : ofValue (.ofElements vs) = array (vs.map ofValue) := by
  rw [Value.ofElements, ofValue, ofElements_ofList]

lemma ofValue_ofMembers (ms : List (String × Value)) :
    ofValue (.ofMembers ms) = ofMembers (ms.map fun m => (m.1, ofValue m.2)) := by
  rw [Value.ofMembers, ofValue, ofEntries_ofList, ofMembers, List.map_map]
  rfl

end Document

end RadioFrame.Json
