import RadioFrame.Proofs.Json.Spelling
import RadioFrame.Proofs.Schema.Text

/-!
The spellings of a body.

What is written of a body is one of many documents that say the same. A document spells a body
(`Body.Spelled`) if it does so field by field:

* the fields, a submessage and what a device says of one domain stand in objects, in any order and
  among unknown members, or in arrays; an absent field is `null`, or is not there;
* a word, and the name of an alternative that carries nothing, stands alone or in an object with
  `null`;
* the hexadecimal digits of payloads and addresses have either case;
* everything else is as it is written.

Every spelling of a body is read as that body (`Body.yields`), and what is written of it is one of
them (`Body.spelled_toJson`).
-/

namespace RadioFrame

open Json (Document SpelledRecord Carried)
open Json.Reader (Yields)

/-! ### Spellings -/

/-- A word stands alone, or in an object with `null`. -/
def Vocabulary.Spelled {v : Vocabulary} (w : v.Word) (d : Document) : Prop :=
  d = .text (some (Vocabulary.spelling w)) ∨ d = .tagged (Vocabulary.spelling w) .null

/-- A payload is spelled in digits of either case. -/
def Payload.Spelled {bound : Nat} (p : Payload bound) (d : Document) : Prop :=
  ∃ groups, List.Forall₂ Hex.Spells p.bytes groups ∧ d = .text (some (String.ofList groups.flatten))

/-- So is an address, with colons between its octets. -/
def BdAddress.Spelled (a : BdAddress) (d : Document) : Prop :=
  ∃ groups, List.Forall₂ Hex.Spells a.octets.bytes groups ∧
    d = .text (some (String.ofList ([':'].intercalate groups)))

/-- The spellings of the two parts of what a device says of one domain. -/
def CapabilityPart.Spelled : (p : CapabilityPart) → p.Value → Document → Prop
  | domain, w, d => Vocabulary.Spelled w d
  | capabilities, c, d => d = .ofValue (Capabilities.toJson c)

/-- What a device says of one domain, as a record of two parts. -/
def DomainCapabilities.parts (e : DomainCapabilities) :
    Row CapabilityPart.Value [.domain, .capabilities] := (e.domain, e.capabilities, ())

/-- The spellings of what a device says of one domain. -/
def DomainCapabilities.Spelled (e : DomainCapabilities) (d : Document) : Prop :=
  SpelledRecord (fun p => (CapabilityPart.field p).name) CapabilityPart.Spelled (fun _ _ => False)
    e.parts d

namespace Datum

/-- The spellings of a datum. -/
def Spelled : (datum : Datum) → datum.Value → Document → Prop
  | word _, w, d => Vocabulary.Spelled w d
  | payload _, p, d => Payload.Spelled p d
  | address, a, d => BdAddress.Spelled a d
  | capability, e, d => DomainCapabilities.Spelled e d
  | natural32, n, d => d = .ofValue (toJson natural32 n)
  | natural64, n, d => d = .ofValue (toJson natural64 n)
  | integer, n, d => d = .ofValue (toJson integer n)
  | flag, b, d => d = .ofValue (toJson flag b)
  | block length, b, d => d = .ofValue (toJson (block length) b)
  | channels, m, d => d = .ofValue (toJson channels m)

end Datum

/-- The spellings of a submessage. -/
def Submessage.Spelled (s : Submessage) (v : s.Value) (d : Document) : Prop :=
  SpelledRecord Member.name (fun m => m.datum.Spelled) (fun _ _ => False) v d

/-- The spellings of an alternative. -/
def Alternative.Spelled (a : Alternative) (v : a.submessage.Value) (d : Document) : Prop :=
  match a.submessage.members with
  | [] => d = .text (some a.name) ∨ d = .tagged a.name .null
  | _ => ∃ inner, d = .tagged a.name inner ∧ a.submessage.Spelled v inner

namespace Form

/-- The spellings of a field. -/
def Spelled : (f : Form) → f.Value → Document → Prop
  | single datum, v, d => datum.Spelled v d
  | optional datum, v, d =>
      match (v : Option datum.Value) with
      | none => d = .null
      | some w => datum.Spelled w d
  | list datum, vs, d => ∃ ds, d = .array ds ∧ List.Forall₂ datum.Spelled vs ds
  | record s, v, d => s.Spelled v d
  | optionalRecord s, v, d =>
      match (v : Option s.Value) with
      | none => d = .null
      | some w => s.Spelled w d
  | records s, vs, d => ∃ ds, d = .array ds ∧ List.Forall₂ s.Spelled vs ds
  | choice as, ⟨i, v⟩, d => (as.get i).Spelled v d
  | inlined s, v, d => s.Spelled v d

end Form

/-- The spellings of a body. -/
def Body.Spelled {s : Shape} (b : Body s) (d : Document) : Prop :=
  SpelledRecord Field.key (fun f => f.form.Spelled) (fun f v => f.form.has v = false) b.row d

/-! ### Simple values -/

lemma Json.Reader.Yields.andThen {α β : Type} {r : Json.Reader α} {d : Document} {a : α} {b : β}
    {f : α → Except Json.Complaint β} (h : Yields r d a) (hf : f a = .ok b) :
    Yields (r.andThen f) d b := by
  intro rest
  simp only [Json.Reader.andThen, h rest, ok_bind, hf]

lemma Vocabulary.yields {v : Vocabulary} (h : v.spellings.Nodup) {w : v.Word} {d : Document}
    (hd : Vocabulary.Spelled w d) : Yields v.reader d w := by
  rcases hd with rfl | rfl
  · exact Json.Reader.yields_bare h rfl
  · exact Json.Reader.yields_unit h rfl

lemma Payload.yields {bound : Nat} {p : Payload bound} {d : Document} (h : p.Spelled d) :
    Yields (Payload.reader bound) d p := by
  obtain ⟨groups, hgroups, rfl⟩ := h
  refine Json.Reader.yields_text _ ?_
  rw [ofHex, String.toList_ofList, Hex.decode_groups hgroups, mapError_ok, ok_bind, ofBytes_bytes,
    mapError_ok]

lemma BdAddress.yields {a : BdAddress} {d : Document} (h : a.Spelled d) :
    Yields BdAddress.reader d a := by
  obtain ⟨groups, hgroups, rfl⟩ := h
  refine Json.Reader.yields_text _ ?_
  have hshows : a.Shows ([':'].intercalate groups) :=
    ⟨groups, rfl, hgroups.imp fun _ _ => .digits⟩
  rw [ofString, String.toList_ofList, ofText?_eq_some_iff.mpr hshows, mapError_ok]

lemma DomainCapabilities.yields {e : DomainCapabilities} {d : Document} (h : e.Spelled d) :
    Yields DomainCapabilities.reader d e := by
  have hread : ∀ p ∈ [CapabilityPart.domain, .capabilities], ∀ v d,
      CapabilityPart.Spelled p v d → Yields p.field.read d v := by
    rintro (_ | _) - v d hd
    · exact Vocabulary.yields (by decide) hd
    · obtain rfl : d = _ := hd
      exact Json.Reader.reads_iff_yields.mp (Capabilities.reads v)
  have hrow := Json.Reader.yields_record "struct DomainCapabilities" (by decide) hread
    (fun _ _ _ => False.elim) h
  exact hrow.andThen rfl

/-- Every spelling of a datum is read as that datum. -/
lemma Datum.yields (datum : Datum) (h : datum.DistinctNames) {v : datum.Value} {d : Document}
    (hd : datum.Spelled v d) : Yields datum.reader d v := by
  cases datum with
  | word vocabulary => exact Vocabulary.yields h hd
  | payload bound => exact Payload.yields hd
  | address => exact BdAddress.yields hd
  | capability => exact DomainCapabilities.yields hd
  | natural32 | natural64 | integer | flag | block _ | channels =>
      obtain rfl : d = _ := hd
      exact Json.Reader.reads_iff_yields.mp (Datum.reads _ h v)

/-! ### Fields -/

/-- Every spelling of a submessage is read as that submessage. -/
lemma Submessage.yields (s : Submessage) (h : s.DistinctNames) {v : s.Value} {d : Document}
    (hd : s.Spelled v d) : Yields s.reader d v :=
  Json.Reader.yields_record s.title h.1 (fun m hm _ _ => m.datum.yields (h.2 m hm))
    (fun _ _ _ => False.elim) hd

/-- A record is spelled in brackets or braces. -/
lemma Json.SpelledRecord.ne_null {ι : Type} {V : ι → Type} {name : ι → String}
    {spelled : ∀ i, V i → Document → Prop} {absent : ∀ i, V i → Prop} {is : List ι}
    {row : Row V is} {d : Document} (h : SpelledRecord name spelled absent row d) : d ≠ .null := by
  rcases h with ⟨ms, rfl, -⟩ | ⟨ds, rfl, -⟩ <;> exact nofun

/-- No datum is spelled as `null`. -/
lemma Datum.Spelled.ne_null {datum : Datum} {v : datum.Value} {d : Document}
    (h : datum.Spelled v d) : d ≠ .null := by
  cases datum with
  | word vocabulary => rcases h with rfl | rfl <;> exact nofun
  | payload bound => obtain ⟨groups, -, rfl⟩ := h; exact nofun
  | address => obtain ⟨groups, -, rfl⟩ := h; exact nofun
  | capability => exact Json.SpelledRecord.ne_null h
  | natural32 | natural64 | integer | flag | block _ | channels =>
      obtain rfl : d = _ := h
      exact nofun

namespace Form

/-- Every spelling of a choice is read as that choice. -/
lemma yields_choice {as : List Alternative} (hnames : (as.map (·.name)).Nodup)
    (hinside : ∀ a ∈ as, a.submessage.DistinctNames) {v : (choice as).Value} {d : Document}
    (hd : (choice as).Spelled v d) : Yields (choiceReader as) d v := by
  obtain ⟨i, v⟩ : OneOf fun i : Fin as.length => (as.get i).submessage.Value := v
  change (as.get i).Spelled v d at hd
  rw [Alternative.Spelled] at hd
  split at hd
  · next hmembers =>
      have hcarried : (as.get i).carried = .nothing v := by
        rw [Alternative.carried, hmembers, (as.get i).submessage.value_eq hmembers v]
      have hcontent : ((as.get i).carried.map fun v =>
          (⟨i, v⟩ : OneOf fun i : Fin as.length => (as.get i).submessage.Value)) =
            .nothing ⟨i, v⟩ := by
        rw [hcarried, Carried.map]
      rcases hd with rfl | rfl
      · exact Json.Reader.yields_bare hnames hcontent
      · exact Json.Reader.yields_unit hnames hcontent
  · next hmembers =>
      obtain ⟨inner, rfl, hinner⟩ := hd
      have hcarried : (as.get i).carried = .record (as.get i).submessage.reader := by
        rw [Alternative.carried]
        split
        · next hnil => exact absurd hnil hmembers
        · rfl
      have hv := (as.get i).submessage.yields (hinside _ (List.get_mem as i)) hinner
      exact Json.Reader.yields_tagged hnames (.inr (by rw [hcarried, Carried.map])) (hv.andThen rfl)

/-- Every spelling of a field is read as that field. -/
lemma yields (f : Form) (h : f.DistinctNames) (name : String) {v : f.Value} {d : Document}
    (hd : f.Spelled v d) : Yields (f.field name).read d v := by
  cases f with
  | single datum => exact datum.yields h hd
  | optional datum =>
      cases v with
      | none =>
          obtain rfl : d = .null := hd
          exact Json.Reader.yields_null
      | some w => exact (datum.yields h hd).nullable (Datum.Spelled.ne_null hd)
  | list datum =>
      obtain ⟨ds, rfl, hds⟩ := hd
      exact Json.Reader.yields_list (hds.flip.imp fun _ _ => datum.yields h)
  | record s => exact s.yields h hd
  | optionalRecord s =>
      cases v with
      | none =>
          obtain rfl : d = .null := hd
          exact Json.Reader.yields_null
      | some w => exact (s.yields h hd).nullable (Json.SpelledRecord.ne_null hd)
  | records s =>
      obtain ⟨ds, rfl, hds⟩ := hd
      exact Json.Reader.yields_list (hds.flip.imp fun _ _ => s.yields h)
  | choice as => exact yields_choice h.1 h.2 hd
  | inlined s => exact s.yields h hd

/-- A field that is not there has the value of an absent one. -/
lemma absent_of_has (f : Form) (name : String) {v : f.Value} (h : f.has v = false) :
    (f.field name).absent = some v := by
  cases f with
  | optional datum =>
      cases v with
      | none => rfl
      | some w => cases h
  | optionalRecord s =>
      cases v with
      | none => rfl
      | some w => cases h
  | single _ | list _ | record _ | records _ | choice _ | inlined _ => cases h

end Form

/-! ### Bodies -/

/-- Every spelling of a body is read as that body. -/
theorem Body.yields (s : Shape) (h : s.DistinctNames) {b : Body s} {d : Document}
    (hd : b.Spelled d) : Yields (Body.reader s) d b := by
  have hread : ∀ f ∈ s.fields, ∀ v d, f.form.Spelled v d → Yields f.recordField.read d v :=
    fun f hf v d => f.form.yields (h.2 f hf) f.key
  have habsent : ∀ f ∈ s.fields, ∀ v, f.form.has v = false → f.recordField.absent = some v :=
    fun f _ v => f.form.absent_of_has f.key
  rw [Body.Spelled, ← Field.name_recordField] at hd
  have hrow := Json.Reader.yields_record ("struct " ++ s.title) (Shape.recordNames_nodup h) hread
    habsent hd
  exact hrow.andThen (by rw [ofRow_eq_ok_iff.mpr rfl, mapError_ok])

/-! ### The written spelling -/

lemma DomainCapabilities.spelled_toJson (e : DomainCapabilities) :
    e.Spelled (.ofValue e.toJson) := by
  have hspelled : ∀ p ∈ [CapabilityPart.domain, .capabilities], ∀ v,
      (∀ j, some (p.toJson v) = some j → CapabilityPart.Spelled p v (.ofValue j)) ∧
        (some (p.toJson v) = none → False) := by
    rintro (_ | _) - v
    · exact ⟨fun j hj => by cases hj; exact .inl rfl, nofun⟩
    · exact ⟨fun j hj => by cases hj; rfl, nofun⟩
  exact Json.Reader.spelledRecord_membersOf (by decide) hspelled e.parts

/-- What is written of a datum is one of its spellings. -/
lemma Datum.spelled_toJson (datum : Datum) (v : datum.Value) :
    datum.Spelled v (.ofValue (datum.toJson v)) := by
  cases datum with
  | word vocabulary => exact .inl rfl
  | payload bound => exact ⟨_, Hex.forall₂_encodeByte _, rfl⟩
  | address => exact ⟨_, Hex.forall₂_encodeByte _, rfl⟩
  | capability => exact DomainCapabilities.spelled_toJson v
  | natural32 | natural64 | integer | flag | block _ | channels => rfl

/-- What is written of a submessage is one of its spellings. -/
lemma Submessage.spelled_toJson (s : Submessage) (h : s.DistinctNames) (v : s.Value) :
    s.Spelled v (.ofValue (s.toJson v)) := by
  have hspelled : ∀ m ∈ s.members, ∀ v,
      (∀ j, some (m.datum.toJson v) = some j → m.datum.Spelled v (.ofValue j)) ∧
        (some (m.datum.toJson v) = none → False) :=
    fun m _ v => ⟨fun j hj => by cases hj; exact m.datum.spelled_toJson v, nofun⟩
  have hrow : s.Spelled v (.ofValue (.ofMembers (Json.Reader.membersOf Member.field
      (fun m v => some (m.datum.toJson v)) v))) :=
    Json.Reader.spelledRecord_membersOf h.1 hspelled v
  rwa [Json.Reader.membersOf_some] at hrow

namespace Form

/-- A written list spells its elements one after the other. -/
lemma spelled_ofElements {α : Type} {spelled : α → Document → Prop} {toJson : α → Json.Value}
    (h : ∀ a, spelled a (.ofValue (toJson a))) (as : List α) :
    ∃ ds, Document.ofValue (.ofElements (as.map toJson)) = .array ds ∧
      List.Forall₂ spelled as ds := by
  refine ⟨_, Document.ofValue_ofElements _, ?_⟩
  rw [List.map_map, List.forall₂_map_right_iff, List.forall₂_same]
  exact fun a _ => h a

/-- What is written of a field that is there is one of its spellings. -/
lemma spelled_contentToJson (f : Form) (h : f.DistinctNames) (v : f.Value) (hv : f.has v = true) :
    f.Spelled v (.ofValue (f.contentToJson (f.get v))) := by
  cases f with
  | single datum => exact datum.spelled_toJson v
  | optional datum =>
      cases v with
      | none => cases hv
      | some w => exact datum.spelled_toJson w
  | list datum => exact spelled_ofElements datum.spelled_toJson v
  | record s => exact s.spelled_toJson h v
  | optionalRecord s =>
      cases v with
      | none => cases hv
      | some w => exact s.spelled_toJson h w
  | records s => exact spelled_ofElements (s.spelled_toJson h) v
  | choice as =>
      obtain ⟨i, v⟩ : OneOf fun i : Fin as.length => (as.get i).submessage.Value := v
      have hinside := (as.get i).submessage.spelled_toJson (h.2 _ (List.get_mem as i)) v
      change (as.get i).Spelled v (.ofValue ((as.get i).toJson v))
      rw [Alternative.Spelled, Alternative.toJson]
      cases (as.get i).submessage.members with
      | nil => exact .inl rfl
      | cons m ms => exact ⟨_, rfl, hinside⟩
  | inlined s => exact s.spelled_toJson h v

/-- What is written of a field, if anything, is one of its spellings. -/
lemma spelled_toJson? (f : Form) (h : f.DistinctNames) (v : f.Value) :
    (∀ j, f.toJson? v = some j → f.Spelled v (.ofValue j)) ∧
      (f.toJson? v = none → f.has v = false) := by
  rw [toJson?]
  cases hv : f.has v with
  | true =>
      refine ⟨fun j hj => ?_, nofun⟩
      rw [← Option.some.inj hj]
      exact f.spelled_contentToJson h v hv
  | false => exact ⟨nofun, fun _ => rfl⟩

end Form

/-- What is written of a body is one of its spellings. -/
theorem Body.spelled_toJson {s : Shape} (h : s.DistinctNames) (b : Body s) :
    b.Spelled (.ofValue b.toJson) := by
  have hrow := Json.Reader.spelledRecord_membersOf (Shape.recordNames_nodup h)
    (fun f hf v => f.form.spelled_toJson? (h.2 f hf) v) b.row
  rw [Shape.membersOf_fields, Field.name_recordField] at hrow
  exact hrow

end RadioFrame
