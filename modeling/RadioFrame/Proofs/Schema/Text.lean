import RadioFrame.Proofs.Json.Reading
import RadioFrame.Proofs.Schema.Checking
import RadioFrame.Proofs.Text.Address

/-!
Bodies read from their own text form.

What is written of a value is read as that value, for every datum (`Datum.reads`), submessage
(`Submessage.reads`) and form of field (`Form.tells`), and so for a body (`Body.reads`). It needs
that names do not repeat: no spelling in a vocabulary, no name among the members of a submessage,
the alternatives of a field or the fields of a body. `DistinctNames` says so of a description and
can be decided.
-/

namespace RadioFrame

open Json (RecordField Carried)
open Json.Reader (Reads Tells membersOf)

/-! ### Names that do not repeat -/

/-- No two words of a vocabulary have one spelling. -/
def Datum.DistinctNames : Datum → Prop
  | .word v => v.spellings.Nodup
  | _ => True

/-- No two members have one name, and the words in them no spelling in common. -/
def Submessage.DistinctNames (s : Submessage) : Prop :=
  (s.members.map (·.name)).Nodup ∧ ∀ m ∈ s.members, m.datum.DistinctNames

/-- No two alternatives have one name, and no two names inside are the same. -/
def Form.DistinctNames : Form → Prop
  | single d | optional d | list d => d.DistinctNames
  | record s | optionalRecord s | records s | inlined s => s.DistinctNames
  | choice as => (as.map (·.name)).Nodup ∧ ∀ a ∈ as, a.submessage.DistinctNames

/-- No two fields have one name in text, and no two names inside are the same. -/
def Shape.DistinctNames (s : Shape) : Prop :=
  (s.fields.map (·.key)).Nodup ∧ ∀ f ∈ s.fields, f.form.DistinctNames

instance : DecidablePred Datum.DistinctNames
  | .word v => inferInstanceAs (Decidable v.spellings.Nodup)
  | .natural32 | .natural64 | .integer | .flag | .payload _ | .block _ | .address | .channels
  | .capability => isTrue trivial

instance (s : Submessage) : Decidable s.DistinctNames :=
  inferInstanceAs
    (Decidable ((s.members.map (·.name)).Nodup ∧ ∀ m ∈ s.members, m.datum.DistinctNames))

instance : DecidablePred Form.DistinctNames
  | .single d | .optional d | .list d => inferInstanceAs (Decidable d.DistinctNames)
  | .record s | .optionalRecord s | .records s | .inlined s =>
      inferInstanceAs (Decidable s.DistinctNames)
  | .choice as =>
      inferInstanceAs
        (Decidable ((as.map (·.name)).Nodup ∧ ∀ a ∈ as, a.submessage.DistinctNames))

instance (s : Shape) : Decidable s.DistinctNames :=
  inferInstanceAs
    (Decidable ((s.fields.map (·.key)).Nodup ∧ ∀ f ∈ s.fields, f.form.DistinctNames))

/-! ### Numbers -/

namespace Json.Reader

lemma Reads.andThen {α β : Type} {r : Reader α} {v : Value} {a : α} {b : β}
    {f : α → Except Complaint β} (h : Reads r v a) (hf : f a = .ok b) :
    Reads (r.andThen f) v b := by
  intro rest
  simp only [Reader.andThen, h rest, ok_bind, hf]

/-- A number that a type without signs holds is read as that number. -/
lemma reads_natural {α : Type} {size n : Nat} {ofNat : Nat → α} {a : α} (expected : String)
    (hsize : size ≤ UInt64.size) (hn : n < size) (ha : ofNat n = a) :
    Reads
      (number (fun i => if 0 ≤ i ∧ i < size then some (ofNat i.toNat) else none) expected)
      (.number n) a := by
  refine reads_number expected (by omega) (by omega) ?_
  rw [if_pos ⟨by omega, by omega⟩, Int.toNat_natCast, ha]

lemma reads_byte (b : UInt8) : Reads byte (.number b.toNat) b :=
  reads_natural "u8" (by decide) b.toNat_lt UInt8.ofNat_toNat

lemma reads_natural32 (n : UInt32) : Reads natural32 (.number n.toNat) n :=
  reads_natural "u32" (by decide) n.toNat_lt UInt32.ofNat_toNat

lemma reads_natural64 (n : UInt64) : Reads natural64 (.number n.toNat) n :=
  reads_natural "u64" (Nat.le_refl _) n.toNat_lt UInt64.ofNat_toNat

lemma reads_integer32 (n : Int32) : Reads integer32 (.number n.toInt) n := by
  have hlow := n.le_toInt
  have hhigh := n.toInt_lt
  have hsize : (UInt64.size : Int) = 2 ^ 64 := rfl
  refine reads_number "i32" (by omega) (by omega) ?_
  rw [if_pos ⟨n.minValue_le_toInt, n.toInt_le⟩, Int32.ofInt_toInt]

lemma reads_block {length : Nat} (b : Block length) :
    Reads (block length) (.ofBytes b.bytes) b := by
  intro rest
  have hbytes := reads_array reads_byte b.length_eq rest
  simp only [block, Value.ofBytes, hbytes, ok_bind, Block.ofBytes?_eq_some_iff.mpr rfl]

end Json.Reader

/-! ### Values with types of their own -/

lemma Vocabulary.reads {v : Vocabulary} (h : v.spellings.Nodup) (w : v.Word) :
    Reads v.reader (Vocabulary.toJson w) w :=
  Json.Reader.reads_bare h rfl

lemma Payload.reads {bound : Nat} (p : Payload bound) :
    Reads (Payload.reader bound) p.toJson p := by
  refine Json.Reader.reads_text _ ?_
  rw [ofHex, String.toList_ofList, Hex.decode_encode_eq, mapError_ok, ok_bind, ofBytes_bytes,
    mapError_ok]

lemma BdAddress.reads (a : BdAddress) : Reads BdAddress.reader a.toJson a := by
  refine Json.Reader.reads_text _ ?_
  rw [ofString, String.toList_ofList, ofText?_toText, mapError_ok]

lemma ChannelMap.reads (m : ChannelMap) : Reads ChannelMap.reader m.toJson m :=
  (Json.Reader.reads_block m.bytes).andThen rfl

lemma Capabilities.reads (c : Capabilities) : Reads Capabilities.reader c.toJson c := by
  refine (Json.Reader.reads_natural32 c.bits).andThen ?_
  rw [ofNumber, dif_pos c.bits_lt, mapError_ok]

/-- A part of what a device says of one domain, as JSON. -/
def CapabilityPart.toJson : (p : CapabilityPart) → p.Value → Json.Value
  | domain, w => Vocabulary.toJson w
  | capabilities, c => Capabilities.toJson c

lemma DomainCapabilities.reads (e : DomainCapabilities) :
    Reads DomainCapabilities.reader e.toJson e := by
  have htells : ∀ p ∈ [CapabilityPart.domain, .capabilities], ∀ v,
      Tells p.field (some (p.toJson v)) v := by
    rintro (_ | _) - v
    · exact Vocabulary.reads (by decide) v
    · exact Capabilities.reads v
  have hrow := Json.Reader.reads_record "struct DomainCapabilities" (by decide) htells
    (e.domain, e.capabilities, ())
  exact hrow.andThen rfl

/-! ### Fields -/

/-- What is written of a datum is read as that datum. -/
lemma Datum.reads (d : Datum) (h : d.DistinctNames) (v : d.Value) :
    Reads d.reader (d.toJson v) v := by
  cases d with
  | natural32 => exact Json.Reader.reads_natural32 v
  | natural64 => exact Json.Reader.reads_natural64 v
  | integer => exact Json.Reader.reads_integer32 v
  | flag => exact Json.Reader.reads_bool v
  | word vocabulary => exact Vocabulary.reads h v
  | payload bound => exact Payload.reads v
  | block length => exact Json.Reader.reads_block v
  | address => exact BdAddress.reads v
  | channels => exact ChannelMap.reads v
  | capability => exact DomainCapabilities.reads v

/-- No datum is written as `null`, which stands for one that is absent. -/
lemma Datum.toJson_ne_null (d : Datum) (v : d.Value) : d.toJson v ≠ .null := by
  cases d <;> exact nofun

namespace Submessage

/-- What is written of a submessage is read as that submessage. -/
lemma reads (s : Submessage) (h : s.DistinctNames) (v : s.Value) :
    Reads s.reader (s.toJson v) v := by
  have htells : ∀ m ∈ s.members, ∀ w, Tells m.field (some (m.datum.toJson w)) w :=
    fun m hm w => m.datum.reads (h.2 m hm) w
  have hrow := Json.Reader.reads_record s.title h.1 htells v
  rwa [Json.Reader.membersOf_some] at hrow

/-- A submessage without members has a single value. -/
lemma value_eq (s : Submessage) (h : s.members = []) (v w : s.Value) : v = w := by
  revert v w
  rw [Value, h]
  exact fun () () => rfl

end Submessage

namespace Form

variable {as : List Alternative}

/-- What is written of a choice is read as that choice. -/
lemma reads_choice (hnames : (as.map (·.name)).Nodup)
    (hinside : ∀ a ∈ as, a.submessage.DistinctNames)
    (v : OneOf fun i : Fin as.length => (as.get i).submessage.Value) :
    Reads (choiceReader as) (contentToJson (choice as) v) v := by
  obtain ⟨i, v⟩ := v
  have hv := (as.get i).submessage.reads (hinside _ (List.get_mem as i)) v
  change Reads (choiceReader as) ((as.get i).toJson v) ⟨i, v⟩
  cases hmembers : (as.get i).submessage.members with
  | nil =>
      have hcarried : (as.get i).carried = .nothing v := by
        rw [Alternative.carried, hmembers, (as.get i).submessage.value_eq hmembers v]
      have hjson : (as.get i).toJson v = .text (as.get i).name := by
        rw [Alternative.toJson, hmembers]
      rw [hjson]
      exact Json.Reader.reads_bare hnames (by rw [hcarried, Carried.map])
  | cons m ms =>
      have hcarried : (as.get i).carried = .record (as.get i).submessage.reader := by
        rw [Alternative.carried, hmembers]
      have hjson : (as.get i).toJson v =
          .tagged (as.get i).name ((as.get i).submessage.toJson v) := by
        rw [Alternative.toJson, hmembers]
      rw [hjson]
      exact Json.Reader.reads_tagged hnames (.inr (by rw [hcarried, Carried.map]))
        (hv.andThen rfl)

lemma name_field (name : String) (f : Form) : (f.field name).name = name := by
  cases f <;> rfl

/-- A field is told by what is written of it: if it is absent, nothing. -/
lemma tells (f : Form) (h : f.DistinctNames) (name : String) (v : f.Value) :
    Tells (f.field name) (f.toJson? v) v := by
  cases f with
  | single d => exact d.reads h v
  | optional d =>
      cases v with
      | none => rfl
      | some w => exact (d.reads h w).nullable (d.toJson_ne_null w)
  | list d => exact Json.Reader.reads_list (d.reads h) v
  | record s => exact s.reads h v
  | optionalRecord s =>
      cases v with
      | none => rfl
      | some w => exact (s.reads h w).nullable nofun
  | records s => exact Json.Reader.reads_list (s.reads h) v
  | choice as => exact reads_choice h.1 h.2 v
  | inlined s => exact s.reads h v

end Form

/-! ### Bodies -/

/-- In text a field goes by its key. -/
lemma Field.name_recordField : (fun f : Field => f.recordField.name) = Field.key :=
  funext fun f => f.form.name_field f.key

namespace Shape

variable {s : Shape}

lemma recordNames_nodup (h : s.DistinctNames) :
    (s.fields.map fun f => f.recordField.name).Nodup := by
  rw [Field.name_recordField]
  exact h.1

lemma tells (h : s.DistinctNames) :
    ∀ f ∈ s.fields, ∀ v, Tells f.recordField (f.form.toJson? v) v :=
  fun f hf v => f.form.tells (h.2 f hf) f.key v

/-- The members of a body go by the keys of its fields. -/
lemma membersOf_fields {D : Field → Type} (json : ∀ f, D f → Option Json.Value)
    (row : Row D s.fields) :
    membersOf Field.recordField json row =
      (row.toList fun f v => (json f v).map fun j => (f.key, j)).filterMap id := by
  rw [membersOf]
  congr 2
  funext f v
  rw [← Field.name_recordField]

end Shape

/-- What is written of the fields of a body is read as those fields. -/
lemma Body.reads_row {s : Shape} (h : s.DistinctNames) (row : Row Field.Value s.fields) :
    Reads (Json.Reader.record Field.recordField ("struct " ++ s.title) s.fields)
      (.ofMembers ((row.toList Field.member?).filterMap id)) row := by
  have hrow := Json.Reader.reads_record ("struct " ++ s.title) (Shape.recordNames_nodup h)
    (Shape.tells h) row
  rwa [Shape.membersOf_fields] at hrow

/-- What is written of a body is read as that body. -/
theorem Body.reads (s : Shape) (h : s.DistinctNames) (b : Body s) :
    Reads (Body.reader s) b.toJson b :=
  (reads_row h b.row).andThen (by rw [ofRow_eq_ok_iff.mpr rfl, mapError_ok])

end RadioFrame
