import RadioFrame.Proofs.Json.Refusal

/-!
Drafts: fields as they are asked for, before any limit is applied.

A draft assigns to every field of a shape a value that can be written in both forms: bytes of any
number for payloads, blocks, addresses and channel maps, and of the other data the values that
exist. Of a draft are made

* `draftRaw`, the raw body that carries it on the wire;
* `draftJson`, the document that spells it: payloads in hexadecimal digits, addresses as octets with
  colons between, blocks and channel maps as arrays of numbers.

The limits are applied twice, by the check of the raw body and by the reader of the document, and
they are the same: on every draft the two agree, for each datum (`Datum.agrees`), submessage
(`Submessage.agrees`) and form of field (`Form.agrees`), and so for a body (`Shape.agrees`).
-/

namespace RadioFrame

open Json.Reader (Agrees FieldAgrees Reads Refuses membersOf)

/-! ### Simple values -/

namespace Datum

/-- What can be asked for in place of a datum. -/
def Draft : Datum → Type
  | natural32 => UInt32
  | natural64 => UInt64
  | integer => Int32
  | flag => Bool
  | word v => v.Word
  | payload _ | block _ | address | channels => Bytes
  | capability => DomainCapabilities

/-- The scalar that carries a draft. The bytes of an address are given in the order in which they
are shown. -/
def draftRaw : (d : Datum) → d.Draft → d.Raw
  | natural32, n => n
  | natural64, n => n
  | integer, n => n
  | flag, b => b
  | word _, w => Vocabulary.number w
  | payload _, bytes => bytes
  | block _, bytes => bytes
  | address, bytes => List.reverse bytes
  | channels, bytes => bytes
  | capability, e => DomainCapabilities.toWord e

/-- The document of a draft. -/
def draftJson : (d : Datum) → d.Draft → Json.Value
  | natural32, n => .number (UInt32.toNat n)
  | natural64, n => .number (UInt64.toNat n)
  | integer, n => .number (Int32.toInt n)
  | flag, b => .bool b
  | word _, w => Vocabulary.toJson w
  | payload _, bytes => .text (String.ofList (Hex.encode bytes))
  | block _, bytes => .ofBytes bytes
  | address, bytes => .text (String.ofList ([':'].intercalate (List.map Hex.encodeByte bytes)))
  | channels, bytes => .ofBytes bytes
  | capability, e => DomainCapabilities.toJson e

/-- Both forms of a payload have one bound. -/
lemma agrees_payload (bound : Nat) (bytes : Bytes) :
    Agrees ((Payload.ofBytes bound bytes).mapError Flaw.overflow) (Payload.reader bound)
      (.text (String.ofList (Hex.encode bytes))) Payload.toJson := by
  have hread : Payload.ofHex bound (String.ofList (Hex.encode bytes)) =
      (Payload.ofBytes bound bytes).mapError .overflow := by
    rw [Payload.ofHex, String.toList_ofList, Hex.decode_encode_eq, mapError_ok, ok_bind]
  by_cases h : bytes.length ≤ bound
  · exact .inl ⟨⟨bytes, h⟩, by rw [Payload.ofBytes, dif_pos h, mapError_ok], rfl⟩
  · have hlong : Payload.ofBytes bound bytes = .error ⟨bytes.length, bound⟩ := dif_neg h
    rw [hlong, mapError_error] at hread
    exact .inr ⟨_, _, by rw [hlong, mapError_error], Json.Reader.refuses_text _ hread⟩

/-- Both forms of a block have one length. -/
lemma agrees_block (length : Nat) (bytes : Bytes) :
    Agrees (checkLength length bytes) (Json.Reader.block length) (.ofBytes bytes)
      fun b => .ofBytes b.bytes := by
  by_cases h : bytes.length = length
  · exact .inl ⟨⟨bytes, h⟩, (exact_checkLength length _ _).mpr rfl, rfl⟩
  · obtain ⟨fault, hrefuses⟩ := Json.Reader.exists_refuses_block h
    exact .inr ⟨_, fault, by rw [checkLength, Block.ofBytes?, dif_neg h], hrefuses⟩

/-- Both forms of an address have six octets. -/
lemma agrees_address (bytes : Bytes) :
    Agrees (address.check (List.reverse bytes)) BdAddress.reader (address.draftJson bytes)
      BdAddress.toJson := by
  by_cases h : bytes.length = 6
  · exact .inl ⟨⟨⟨bytes, h⟩⟩, (address.exact _ (⟨⟨bytes, h⟩⟩ : BdAddress)).mpr rfl, rfl⟩
  · have hcheck : BdAddress.ofWire? bytes.reverse = none := by
      rw [BdAddress.ofWire?, Block.ofBytes?, dif_neg (by rwa [List.length_reverse]),
        Option.map_none]
    have hrefused : ∀ raw : address.Raw, BdAddress.ofWire? raw = none →
        address.check raw = .error (.wrongLength 6 (List.length raw)) := by
      intro raw hraw
      rw [check, hraw]
    have hread : BdAddress.ofText? ([':'].intercalate (bytes.map Hex.encodeByte)) = none := by
      have hgroups : List.Forall₂ BdAddress.ShowsOctet bytes (bytes.map Hex.encodeByte) :=
        (Hex.forall₂_encodeByte bytes).imp fun _ _ => .digits
      rw [BdAddress.ofText?_groups hgroups, Block.ofBytes?, dif_neg h, Option.map_none]
    have hspelled : ∀ text, BdAddress.ofText? text = none →
        BdAddress.ofString (String.ofList text) = .error ⟨String.ofList text⟩ := by
      intro text htext
      rw [BdAddress.ofString, String.toList_ofList, htext]
    exact .inr ⟨_, _, hrefused _ hcheck, Json.Reader.refuses_text _
      (congrArg (Except.mapError Json.Complaint.badAddress) (hspelled _ hread))⟩

/-- On every draft of a datum its check and its reader agree. -/
lemma agrees (d : Datum) (v : d.Draft) :
    Agrees (d.check (d.draftRaw v)) d.reader (d.draftJson v) d.toJson := by
  cases d with
  | natural32 | natural64 | integer | flag => exact .inl ⟨v, rfl, rfl⟩
  | word vocabulary => exact .inl ⟨v, ((word vocabulary).exact _ v).mpr rfl, rfl⟩
  | capability => exact .inl ⟨v, (capability.exact _ v).mpr rfl, rfl⟩
  | payload bound => exact agrees_payload bound v
  | block length => exact agrees_block length v
  | address => exact agrees_address v
  | channels =>
      exact (agrees_block 5 v).andThen (g := fun b => .ok (⟨b⟩ : ChannelMap)) ChannelMap.toJson
        Json.Reader.reads_block fun b => .inl ⟨⟨b⟩, rfl, rfl⟩

/-- No draft is written as `null`, which stands for one that is absent. -/
lemma draftJson_ne_null (d : Datum) (v : d.Draft) : d.draftJson v ≠ .null := by
  cases d <;> exact nofun

end Datum

/-! ### Fields -/

namespace Submessage

variable (s : Submessage)

/-- What can be asked for in place of a submessage. -/
abbrev Draft : Type := Row (fun m : Member => m.datum.Draft) s.members

/-- The raw values of a draft. -/
def draftRaw (draft : s.Draft) : s.Raw := draft.map fun m => m.datum.draftRaw

/-- The object of a draft. -/
def draftJson (draft : s.Draft) : Json.Value :=
  .ofMembers (draft.toList fun m v => (m.name, m.datum.draftJson v))

/-- On every draft of a submessage its check and its reader agree. -/
lemma agrees (h : s.DistinctNames) (draft : s.Draft) :
    Agrees (s.check (s.draftRaw draft)) s.reader (s.draftJson draft) s.toJson := by
  have hagree : ∀ m ∈ s.members, ∀ v, FieldAgrees (m.check (m.datum.draftRaw v)) m.field.read
      (some (m.datum.draftJson v)) fun w => some (m.datum.toJson w) :=
    fun m _ v => ((m.datum.agrees v).mapError _).member
  have htells : ∀ m ∈ s.members, ∀ w, Json.Reader.Tells m.field (some (m.datum.toJson w)) w :=
    fun m hm w => m.datum.reads (h.2 m hm) w
  have hrow := Json.Reader.agrees_record s.title h.1 hagree htells draft
  simp only [Json.Reader.membersOf_some] at hrow
  exact hrow

/-- A submessage without members is accepted. -/
lemma exists_check_eq_ok (h : s.members = []) (raw : s.Raw) : ∃ v, s.check raw = .ok v := by
  have hempty : ∀ members (row : Row Member.Raw members), members = [] →
      ∃ v, row.tryMap Member.check = .ok v := by
    intro members row hnil
    subst hnil
    exact ⟨(), rfl⟩
  exact hempty s.members raw h

end Submessage

/-- An alternative of a draft. -/
def Alternative.draftJson (a : Alternative) (draft : a.submessage.Draft) : Json.Value :=
  match a.submessage.members with
  | [] => .text a.name
  | _ => .tagged a.name (a.submessage.draftJson draft)

namespace Form

/-- What can be asked for in place of a field. -/
def Draft : Form → Type
  | single d => d.Draft
  | optional d => Option d.Draft
  | list d => List d.Draft
  | record s => s.Draft
  | optionalRecord s => Option s.Draft
  | records s => List s.Draft
  | choice as => OneOf fun i : Fin as.length => (as.get i).submessage.Draft
  | inlined s => s.Draft

/-- The raw field of a draft. -/
def draftRaw : (f : Form) → f.Draft → f.Raw
  | single d, v => d.draftRaw v
  | optional d, v => Option.map d.draftRaw v
  | list d, vs => List.map d.draftRaw vs
  | record s, v => some (s.draftRaw v)
  | optionalRecord s, v => Option.map s.draftRaw v
  | records s, vs => List.map s.draftRaw vs
  | choice as, ⟨i, v⟩ =>
      (some ⟨i, (as.get i).submessage.draftRaw v⟩ :
        Option (OneOf fun i : Fin as.length => (as.get i).submessage.Raw))
  | inlined s, v => s.draftRaw v

/-- The document of a draft, if the field is there. -/
def draftJson? : (f : Form) → f.Draft → Option Json.Value
  | single d, v => some (d.draftJson v)
  | optional d, v => Option.map d.draftJson v
  | list d, vs => some (.ofElements (List.map d.draftJson vs))
  | record s, v => some (s.draftJson v)
  | optionalRecord s, v => Option.map s.draftJson v
  | records s, vs => some (.ofElements (List.map s.draftJson vs))
  | choice as, ⟨i, v⟩ => some ((as.get i).draftJson v)
  | inlined s, v => some (s.draftJson v)

lemma toJson?_optional (d : Datum) :
    (optional d).toJson? = fun v : Option d.Value => v.map d.toJson := by
  funext v
  cases (v : Option d.Value) <;> rfl

lemma toJson?_optionalRecord (s : Submessage) :
    (optionalRecord s).toJson? = fun v : Option s.Value => v.map s.toJson := by
  funext v
  cases (v : Option s.Value) <;> rfl

/-- On every draft of a choice its check and its reader agree. -/
lemma agrees_choice {as : List Alternative} (hnames : (as.map (·.name)).Nodup)
    (hinside : ∀ a ∈ as, a.submessage.DistinctNames) (name : String) (draft : (choice as).Draft) :
    FieldAgrees ((choice as).check name ((choice as).draftRaw draft)) (choiceReader as)
      ((choice as).draftJson? draft) (choice as).toJson? := by
  obtain ⟨i, draft⟩ : OneOf fun i : Fin as.length => (as.get i).submessage.Draft := draft
  have hdraft := (as.get i).submessage.agrees (hinside _ (List.get_mem as i)) draft
  cases hmembers : (as.get i).submessage.members with
  | nil =>
      obtain ⟨v, hv⟩ := (as.get i).submessage.exists_check_eq_ok hmembers
        ((as.get i).submessage.draftRaw draft)
      refine .inl ⟨⟨i, v⟩, bind_eq_ok.mpr ⟨v, hv, rfl⟩, ?_⟩
      have hjson : (as.get i).draftJson draft = (as.get i).toJson v := by
        rw [Alternative.draftJson, Alternative.toJson, hmembers]
      exact congrArg some hjson
  | cons m ms =>
      have hjson : (as.get i).draftJson draft =
          .tagged (as.get i).name ((as.get i).submessage.draftJson draft) := by
        rw [Alternative.draftJson, hmembers]
      rcases hdraft with ⟨v, hv, hsame⟩ | ⟨e, fault, he, hrefuses⟩
      · refine .inl ⟨⟨i, v⟩, bind_eq_ok.mpr ⟨v, hv, rfl⟩, ?_⟩
        have hvalue : (as.get i).draftJson draft = (as.get i).toJson v := by
          rw [hjson, hsame, Alternative.toJson, hmembers]
        exact congrArg some hvalue
      · have hcarried : (as.get i).carried = .record (as.get i).submessage.reader := by
          rw [Alternative.carried, hmembers]
        refine .inr ⟨e, (as.get i).draftJson draft, fault, ?_, rfl, ?_⟩
        · change ((as.get i).submessage.check _ >>= _) = _
          rw [he, error_bind]
        · rw [hjson]
          exact Json.Reader.refuses_tagged hnames (.inr (by rw [hcarried]; rfl))
            (hrefuses.andThen fun v => .ok ⟨i, v⟩)

/-- On every draft of a field its check and its reader agree. -/
lemma agrees (f : Form) (h : f.DistinctNames) (name key : String) (draft : f.Draft) :
    FieldAgrees (f.check name (f.draftRaw draft)) (f.field key).read (f.draftJson? draft)
      f.toJson? := by
  let laid (d : Datum) (v : d.Raw) : Except Violation d.Value :=
    (d.check v).mapError fun flaw => ⟨name, flaw⟩
  have hlaid (d : Datum) (v : d.Draft) :
      Agrees (laid d (d.draftRaw v)) d.reader (d.draftJson v) d.toJson := (d.agrees v).mapError _
  cases f with
  | single d => exact (hlaid d draft).member
  | optional d =>
      rw [toJson?_optional]
      exact Json.Reader.agrees_optional (hlaid d) d.draftJson_ne_null draft
  | list d => exact (Json.Reader.agrees_list (hlaid d) (d.reads h) draft).member
  | record s => exact (s.agrees h draft).member
  | optionalRecord s =>
      rw [toJson?_optionalRecord]
      exact Json.Reader.agrees_optional (s.agrees h) (fun _ => nofun) draft
  | records s => exact (Json.Reader.agrees_list (s.agrees h) (s.reads h) draft).member
  | choice as => exact agrees_choice h.1 h.2 name draft
  | inlined s => exact (s.agrees h draft).member

end Form

/-! ### Bodies -/

namespace Shape

variable (s : Shape)

/-- What can be asked for in place of a body. -/
abbrev Draft : Type := Row (fun f : Field => f.form.Draft) s.fields

/-- The raw body of a draft. -/
def draftRaw (draft : s.Draft) : s.Raw := draft.map fun f => f.form.draftRaw

/-- The object of a draft. -/
def draftJson (draft : s.Draft) : Json.Value :=
  .ofMembers ((draft.toList fun f v => (f.form.draftJson? v).map fun j => (f.key, j)).filterMap id)

/-- On every draft of a body its check and its reader agree. -/
theorem agrees (h : s.DistinctNames) (draft : s.Draft) :
    Agrees (Body.check s (s.draftRaw draft)) (Body.reader s) (s.draftJson draft) Body.toJson := by
  have hagree : ∀ f ∈ s.fields, ∀ v, FieldAgrees (f.check (f.form.draftRaw v)) f.recordField.read
      (f.form.draftJson? v) f.form.toJson? :=
    fun f hf v => f.form.agrees (h.2 f hf) f.name f.key v
  have hrow := Json.Reader.agrees_record ("struct " ++ s.title) (recordNames_nodup h) hagree
    (tells h) draft
  simp only [membersOf_fields] at hrow
  refine hrow.andThen Body.toJson (Body.reads_row h) fun row => ?_
  cases hrule : Body.ofRow s row with
  | ok b => exact .inl ⟨b, mapError_ok _ _, by rw [Body.toJson, Body.ofRow_eq_ok_iff.mp hrule]; rfl⟩
  | error e => exact .inr ⟨_, _, mapError_error _ _, mapError_error _ _⟩

end Shape

end RadioFrame
