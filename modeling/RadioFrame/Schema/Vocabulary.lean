/-!
Vocabularies: the named values of a field that stands for one of a fixed list of things.

Each value has a word, its spelling in text, and a number, its form on the wire. A word of a
vocabulary is its place in the list, so that words are compared and ordered as they are declared.
-/

namespace RadioFrame

/-- A list of words with their numbers. -/
structure Vocabulary where
  /-- What the vocabulary is called. -/
  title : String
  /-- The words in order, each with its number. -/
  entries : List (String × Int32)
  /-- There is a first word. -/
  entries_pos : 0 < entries.length := by decide
  /-- No number stands for two words. -/
  numbers_nodup : (entries.map (·.2)).Nodup := by decide

namespace Vocabulary

/-- A word of a vocabulary. -/
abbrev Word (v : Vocabulary) : Type := Fin v.entries.length

variable {v : Vocabulary}

/-- The first word, which a field has when nothing else was said. -/
def first (v : Vocabulary) : v.Word := ⟨0, v.entries_pos⟩

/-- The spelling of a word. -/
def spelling (w : v.Word) : String := v.entries[w].1

/-- The number of a word. -/
def number (w : v.Word) : Int32 := v.entries[w].2

/-- All spellings, in order. -/
def spellings (v : Vocabulary) : List String := v.entries.map (·.1)

/-- All numbers, in order. -/
def numbers (v : Vocabulary) : List Int32 := v.entries.map (·.2)

/-- The word of a number, if some word has it. -/
def ofNumber? (v : Vocabulary) (n : Int32) : Option v.Word :=
  v.entries.findFinIdx? fun e => e.2 = n

/-- The word of a spelling, if some word has it. -/
def ofSpelling? (v : Vocabulary) (s : String) : Option v.Word :=
  v.entries.findFinIdx? fun e => e.1 = s

end Vocabulary

/-- A number that no word of a vocabulary has. -/
structure UnknownNumber where
  /-- The number. -/
  number : Int32
  deriving DecidableEq, Repr

/-- The wording of an unknown number. -/
def UnknownNumber.message (u : UnknownNumber) : String :=
  s!"unknown enumeration value {u.number}"

end RadioFrame
