import RadioFrame.Json.Reader
import RadioFrame.Json.Value
import RadioFrame.Schema.Shape

/-!
The text form of message bodies.

Numbers, truth values and lists are what they are in JSON; words are texts, or objects whose only
member is the word with `null`; payloads are texts of hexadecimal digits, blocks and channel maps
arrays of numbers, addresses texts. An absent field is left out when it is written, and may be left
out or `null` when it is read.
-/

namespace RadioFrame

open Json (Reader RecordField Carried)

/-! ### Numbers -/

namespace Json.Reader

/-- A number of a byte. -/
def byte : Reader UInt8 :=
  number (fun i => if 0 ≤ i ∧ i < UInt8.size then some (UInt8.ofNat i.toNat) else none) "u8"

/-- A number of 32 bits. -/
def natural32 : Reader UInt32 :=
  number (fun i => if 0 ≤ i ∧ i < UInt32.size then some (UInt32.ofNat i.toNat) else none) "u32"

/-- A number of 64 bits. -/
def natural64 : Reader UInt64 :=
  number (fun i => if 0 ≤ i ∧ i < UInt64.size then some (UInt64.ofNat i.toNat) else none) "u64"

/-- A signed number of 32 bits. -/
def integer32 : Reader Int32 :=
  number
    (fun i =>
      if Int32.minValue.toInt ≤ i ∧ i ≤ Int32.maxValue.toInt then some (Int32.ofInt i) else none)
    "i32"

/-- A value that is made from another one. -/
def andThen {α β : Type} (r : Reader α) (f : α → Except Complaint β) : Reader β := fun tokens => do
  let (a, rest) ← r tokens
  match f a with
  | .ok b => .ok (b, rest)
  | .error c => complain c

/-- As many bytes as a block has. -/
def block (length : Nat) : Reader (Block length) := fun tokens => do
  let (bytes, rest) ← array byte length tokens
  match Block.ofBytes? length bytes with
  | some b => .ok (b, rest)
  | none => .error .malformed

end Json.Reader

/-! ### Values with types of their own -/

/-- A word as text. -/
def Vocabulary.toJson {v : Vocabulary} (w : v.Word) : Json.Value := .text (Vocabulary.spelling w)

/-- Reads a word. -/
def Vocabulary.reader (v : Vocabulary) : Reader v.Word :=
  Json.Reader.variant (·.1) v.entries fun w => .nothing w

/-- A payload as text. -/
def Payload.toJson {bound : Nat} (p : Payload bound) : Json.Value :=
  .text (String.ofList (Hex.encode p.bytes))

/-- What text that should be a payload is expected to be. -/
def Payload.expectation (bound : Nat) : String :=
  s!"a hex string or byte array of at most {bound} bytes"

/-- The payload that hexadecimal digits spell. -/
def Payload.ofHex (bound : Nat) (s : String) : Except Json.Complaint (Payload bound) := do
  let bytes ← (Hex.decode s.toList).mapError .badHex
  (Payload.ofBytes bound bytes).mapError .overflow

/-- Reads a payload. -/
def Payload.reader (bound : Nat) : Reader (Payload bound) :=
  Json.Reader.text (Payload.ofHex bound) (Payload.expectation bound)

/-- An address as text. -/
def BdAddress.toJson (a : BdAddress) : Json.Value := .text (String.ofList a.toText)

/-- The address that a text shows. -/
def BdAddress.ofString (s : String) : Except AddressFault BdAddress :=
  match BdAddress.ofText? s.toList with
  | some a => .ok a
  | none => .error ⟨s⟩

/-- Reads an address. -/
def BdAddress.reader : Reader BdAddress :=
  Json.Reader.text (fun s => (BdAddress.ofString s).mapError .badAddress) "a string"

/-- A channel map as an array. -/
def ChannelMap.toJson (m : ChannelMap) : Json.Value := .ofBytes m.bytes.bytes

/-- Reads a channel map. -/
def ChannelMap.reader : Reader ChannelMap :=
  (Json.Reader.block 5).andThen fun b => .ok ⟨b⟩

/-- Flags as a number. -/
def Capabilities.toJson (c : Capabilities) : Json.Value := .number c.bits.toNat

/-- Reads flags. -/
def Capabilities.reader : Reader Capabilities :=
  Json.Reader.natural32.andThen fun bits => (Capabilities.ofNumber bits).mapError .overflow

/-- The two parts of what a device says of one domain. -/
inductive CapabilityPart where
  | domain
  | capabilities

namespace CapabilityPart

/-- The values of a part. -/
def Value : CapabilityPart → Type
  | domain => radioDomain.Word
  | capabilities => Capabilities

/-- How a part stands in text. -/
def field : (p : CapabilityPart) → RecordField p.Value
  | domain => ⟨"domain", radioDomain.reader, none⟩
  | capabilities => ⟨"capabilities", Capabilities.reader, none⟩

end CapabilityPart

/-- The capabilities of one domain as an object. -/
def DomainCapabilities.toJson (e : DomainCapabilities) : Json.Value :=
  .ofMembers
    [("domain", Vocabulary.toJson e.domain), ("capabilities", e.capabilities.toJson)]

/-- Reads the capabilities of one domain. -/
def DomainCapabilities.reader : Reader DomainCapabilities :=
  (Json.Reader.record CapabilityPart.field "struct DomainCapabilities"
    [.domain, .capabilities]).andThen fun row => .ok ⟨row.1, row.2.1⟩

/-! ### Fields -/

namespace Datum

/-- A datum as JSON. -/
def toJson : (d : Datum) → d.Value → Json.Value
  | natural32, n => .number (UInt32.toNat n)
  | natural64, n => .number (UInt64.toNat n)
  | integer, n => .number (Int32.toInt n)
  | flag, b => .bool b
  | word _, w => Vocabulary.toJson w
  | payload _, p => Payload.toJson p
  | block _, b => .ofBytes (Block.bytes b)
  | address, a => BdAddress.toJson a
  | channels, m => ChannelMap.toJson m
  | capability, e => DomainCapabilities.toJson e

/-- Reads a datum. -/
def reader : (d : Datum) → Reader d.Value
  | natural32 => Json.Reader.natural32
  | natural64 => Json.Reader.natural64
  | integer => Json.Reader.integer32
  | flag => Json.Reader.bool
  | word v => v.reader
  | payload bound => Payload.reader bound
  | block length => Json.Reader.block length
  | address => BdAddress.reader
  | channels => ChannelMap.reader
  | capability => DomainCapabilities.reader

end Datum

/-- How a member stands in text. -/
def Member.field (m : Member) : RecordField m.Value := ⟨m.name, m.datum.reader, none⟩

/-- A submessage as an object. -/
def Submessage.toJson (s : Submessage) (v : s.Value) : Json.Value :=
  .ofMembers (v.toList fun m w => (m.name, m.datum.toJson w))

/-- Reads a submessage. -/
def Submessage.reader (s : Submessage) : Reader s.Value :=
  Json.Reader.record Member.field s.title s.members

namespace Alternative

/-- An alternative as JSON: its name alone if it carries nothing. -/
def toJson (a : Alternative) (v : a.submessage.Value) : Json.Value :=
  match a.submessage.members with
  | [] => .text a.name
  | _ => .tagged a.name (a.submessage.toJson v)

/-- What an alternative carries. -/
def carried (a : Alternative) : Carried a.submessage.Value :=
  match a.submessage.members with
  | [] => .nothing a.submessage.zero
  | _ => .record a.submessage.reader

end Alternative

/-- Applies a function to what a variant carries. -/
def Json.Carried.map {α β : Type} (f : α → β) : Carried α → Carried β
  | .nothing a => .nothing (f a)
  | .value r => .value (r.andThen fun a => .ok (f a))
  | .record r => .record (r.andThen fun a => .ok (f a))

namespace Form

/-- What a field holds, as JSON. -/
def contentToJson : (f : Form) → f.Content → Json.Value
  | single d, v => d.toJson v
  | optional d, v => d.toJson v
  | list d, vs => .ofElements (List.map d.toJson vs)
  | record s, v => s.toJson v
  | optionalRecord s, v => s.toJson v
  | records s, vs => .ofElements (List.map s.toJson vs)
  | choice as, ⟨i, v⟩ => (as.get i).toJson v
  | inlined s, v => s.toJson v

/-- A field as JSON, if it is there. -/
def toJson? (f : Form) (v : f.Value) : Option Json.Value :=
  if f.has v then some (f.contentToJson (f.get v)) else none

/-- Reads one of several alternatives. -/
def choiceReader (as : List Alternative) :
    Reader (OneOf fun i : Fin as.length => (as.get i).submessage.Value) :=
  Json.Reader.variant Alternative.name as fun i => (as.get i).carried.map fun v => ⟨i, v⟩

/-- Reads what a field holds. -/
def contentReader : (f : Form) → Reader f.Content
  | single d => d.reader
  | optional d => d.reader
  | list d => Json.Reader.list d.reader
  | record s => s.reader
  | optionalRecord s => s.reader
  | records s => Json.Reader.list s.reader
  | choice as => choiceReader as
  | inlined s => s.reader

/-- How a field of a given name stands in text. -/
def field (name : String) : (f : Form) → RecordField f.Value
  | optional d =>
      { name, read := Json.Reader.nullable d.reader, absent := some (none : Option d.Value) }
  | optionalRecord s =>
      { name, read := Json.Reader.nullable s.reader, absent := some (none : Option s.Value) }
  | single d => { name, read := d.reader, absent := none }
  | list d => { name, read := Json.Reader.list d.reader, absent := none }
  | record s => { name, read := s.reader, absent := none }
  | records s => { name, read := Json.Reader.list s.reader, absent := none }
  | choice as => { name, read := choiceReader as, absent := none }
  | inlined s => { name, read := s.reader, absent := none }

end Form

/-- How a field stands in text. -/
def Field.recordField (f : Field) : RecordField f.Value := f.form.field f.key

/-- The member of a field, if it is there. -/
def Field.member? (f : Field) (v : f.Value) : Option (String × Json.Value) :=
  (f.form.toJson? v).map fun j => (f.key, j)

namespace Body

/-- A body as an object. -/
def toJson {s : Shape} (b : Body s) : Json.Value :=
  .ofMembers ((b.row.toList Field.member?).filterMap id)

/-- Reads a body: its fields, then the rule of the shape. -/
def reader (s : Shape) : Reader (Body s) :=
  (Json.Reader.record Field.recordField ("struct " ++ s.title) s.fields).andThen fun row =>
    (ofRow s row).mapError fun (_, overflow) => .overflow overflow

end Body

end RadioFrame
