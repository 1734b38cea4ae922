import Mathlib.Order.Bounds.Defs
import RadioFrame.Message.Zigbee
import RadioFrame.Proofs.Message.RoundTrip
import RadioFrame.Proofs.Message.Text
import RadioFrame.Proofs.Message.Validation
import RadioFrame.Proofs.Schema.Drafts

/-!
The limits of the text form and those of the wire.

A draft (`Draft`) asks for a message of some type and assigns a value to each of its fields, within
the limits or not. It can be written as a document (`Draft.toJson`) and as a frame
(`Draft.toFrame`), and both are accepted together, as one message (`Draft.ofText_eq_ok_iff`). The
frame that is written of a draft carries it (`Draft.ofText_eq_ok_iff_encode`).

Addresses of IEEE 802.15.4 are limited by what is said of their width. The command that is built in
memory, the document and the frame accept the same ones (`SetNodeAddress.accepted_of_fits`), and of
the others they tell the same number of bytes (`SetNodeAddress.refused_of_not_fits`): the least
number that holds the address (`isLeast_byteWidth`).
-/

namespace RadioFrame

open Json.Reader (Reads Refuses)

/-! ### Documents and frames -/

namespace Message

/-- A message whose fields are refused is refused. -/
lemma refuses {t : MessageType} {v : Json.Value} {fault : Json.Fault}
    (h : Refuses (Body.reader t.shape) v fault) :
    Refuses reader (.tagged t.domain.name (.tagged t.kindName v)) fault := by
  obtain ⟨d, k⟩ := t
  have hkind : Refuses (readerIn d) (.tagged (Kind.name k) v) fault :=
    Json.Reader.refuses_tagged d.kindNames_nodup (.inl rfl) (h.andThen _)
  obtain ⟨i, rfl⟩ := d.exists_place
  exact Json.Reader.refuses_tagged Domain.names_nodup (.inl rfl) hkind

/-- What is read of a frame that holds a kind is what is checked of its fields. -/
lemma decode_of_branch {bytes : Bytes} {t : MessageType} {raw : t.shape.Raw}
    (h : Frame.decode bytes = .ok (some ⟨t.domain, some ⟨t.kind, raw⟩⟩)) :
    decode bytes = (Body.check t.shape raw).mapError (fun v => .parse (.violation v)) >>=
      fun body => .ok ⟨t, body⟩ := by
  have henvelope : Envelope.decode bytes = .ok ⟨some ⟨t.domain, some ⟨t.kind, raw⟩⟩⟩ :=
    Envelope.decode_eq_ok_iff.mpr ⟨h, t, rfl⟩
  rw [decode, henvelope, mapError_ok, ok_bind]
  rfl

end Message

/-- Of fields that are acceptable one by one, the rule of the shape decides on the wire. -/
lemma Body.check_toRaw {s : Shape} (row : Row Field.Value s.fields) :
    check s (row.map Field.toRaw) =
      (ofRow s row).mapError fun (field, overflow) => ⟨field, .overflow overflow⟩ := by
  have hrow : (row.map Field.toRaw).tryMap Field.check = .ok row :=
    (Exact.tryMap (fun f : Field => f.form.exact f.name) _ _ _).mpr rfl
  rw [check, hrow, ok_bind]

/-- The rule of the shape decides in text as well. -/
lemma Body.refuses_of_rule {s : Shape} (h : s.DistinctNames) {row : Row Field.Value s.fields}
    {field : String} {overflow : Overflow} (hrule : ofRow s row = .error (field, overflow)) :
    Refuses (reader s) (.ofMembers ((row.toList Field.member?).filterMap id))
      (.complaint (.overflow overflow)) :=
  (reads_row h row).refuses_andThen (by rw [hrule, mapError_error])

/-- The byte width of a number is the least number of bytes that hold it. -/
lemma isLeast_byteWidth {n : Nat} (h : n < 2 ^ 64) : IsLeast {l | n < 256 ^ l} (byteWidth n) := by
  have hiff : ∀ l, n < 256 ^ l ↔ byteWidth n ≤ l := fun l => by
    rw [byteWidth_eq h, Nat.digits_length_le_iff (by decide)]
  exact ⟨(hiff _).mpr (Nat.le_refl _), fun l hl => (hiff l).mp hl⟩

/-! ### Drafts -/

/-- A message that is asked for. -/
structure Draft where
  /-- Its type. -/
  type : MessageType
  /-- What is assigned to its fields. -/
  fields : type.shape.Draft

namespace Draft

/-- The draft on the wire. -/
def toFrame (d : Draft) : Frame :=
  some ⟨d.type.domain, some ⟨d.type.kind, d.type.shape.draftRaw d.fields⟩⟩

/-- The draft as a document. -/
def toJson (d : Draft) : Json.Value :=
  .tagged d.type.domain.name (.tagged d.type.kindName (d.type.shape.draftJson d.fields))

/-- The document of a draft and any frame that carries it are accepted together, as one message. -/
lemma ofText_eq_ok_iff (d : Draft) (layout : Json.Layout) {frame : Bytes}
    (h : Frame.decode frame = .ok d.toFrame) (m : Message) :
    Message.ofText (d.toJson.render layout) = .ok m ↔ Message.decode frame = .ok m := by
  obtain ⟨t, fields⟩ := d
  have hnames : t.shape.DistinctNames := t.domain.distinctNames _ (List.getElem_mem _)
  have hdecode := Message.decode_of_branch h
  dsimp only at hdecode
  rw [hdecode]
  rcases t.shape.agrees hnames fields with ⟨body, hbody, hjson⟩ | ⟨v, fault, hv, hrefuses⟩
  · have hdocument : toJson ⟨t, fields⟩ = Message.toJson ⟨t, body⟩ := by
      rw [toJson, Message.toJson, hjson]
    rw [hdocument, Message.ofText, (Message.reads ⟨t, body⟩).run_render, hbody, mapError_ok,
      ok_bind, Except.ok.injEq, Except.ok.injEq]
  · rw [toJson, Message.ofText, (Message.refuses hrefuses).run_render, hv, mapError_error,
      error_bind]
    simp only [reduceCtorEq]

/-- So there is a frame for every draft, the one that is written of it: it is read as the draft, and
accepted together with the document. -/
theorem ofText_eq_ok_iff_encode (d : Draft) (layout : Json.Layout)
    (hlen : d.toFrame.encode.length < 2 ^ 64) :
    Frame.decode d.toFrame.encode = .ok d.toFrame ∧
      ∀ m, Message.ofText (d.toJson.render layout) = .ok m ↔
        Message.decode d.toFrame.encode = .ok m := by
  have hframe : Frame.decode d.toFrame.encode = .ok d.toFrame := Frame.merge_encode d.toFrame hlen
  exact ⟨hframe, d.ofText_eq_ok_iff layout hframe⟩

end Draft

/-! ### Short addresses -/

namespace SetNodeAddress

/-- The type of the command. -/
def messageType : MessageType := ⟨.zigbee, ⟨0, Nat.zero_lt_succ _⟩⟩

/-- The command for an address of either width, fitting or not. -/
def draft (address : UInt64) (width : addressType.Word) : Draft := ⟨messageType, address, width, ()⟩

/-- An address is extended, or has no more than 16 bits. -/
def Fits (address : UInt64) (width : addressType.Word) : Prop :=
  width = extendedAddress ∨ address.toNat ≤ 0xffff

variable {address : UInt64} {width : addressType.Word}

lemma extended_or_short (width : addressType.Word) :
    width = extendedAddress ∧ width ≠ addressType.first ∨
      width ≠ extendedAddress ∧ width = addressType.first := by
  revert width
  decide

lemma ofRow_of_fits (h : Fits address width) :
    ∃ c : SetNodeAddress, Body.ofRow Zigbee.setNodeAddress (fields address width) = .ok c ∧
      c.row = fields address width := by
  have hrule : Zigbee.setNodeAddress.rule (fields address width) = none := by
    refine if_neg fun ⟨hshort, hlong⟩ => ?_
    rcases h with rfl | h
    · cases hshort
    · exact absurd hlong (Nat.not_le_of_lt (Nat.lt_succ_of_le h))
  exact ⟨⟨fields address width, hrule⟩, Body.ofRow_eq_ok_iff.mpr rfl, rfl⟩

lemma ofRow_of_not_fits (h : ¬Fits address width) :
    Body.ofRow Zigbee.setNodeAddress (fields address width) =
      .error ("address", ⟨byteWidth address.toNat, 2⟩) := by
  obtain ⟨hwidth, hlong⟩ := not_or.mp h
  have hrule : Zigbee.setNodeAddress.rule (fields address width) =
      some ("address", ⟨byteWidth address.toNat, 2⟩) := by
    rcases extended_or_short width with ⟨hextended, _⟩ | ⟨_, hshort⟩
    · exact absurd hextended hwidth
    · exact if_pos ⟨hshort, Nat.lt_of_not_le hlong⟩
  rw [Body.ofRow]
  split
  · next hnone =>
      rw [hrule] at hnone
      cases hnone
  · next e he =>
      rw [hrule] at he
      cases he
      rfl

variable {frame : Bytes} (layout : Json.Layout)
  (hframe : Frame.decode frame = .ok (draft address width).toFrame)

include hframe

/-- The wire decides with the rule of the shape. -/
lemma decode_draft : Message.decode frame =
    ((Body.ofRow Zigbee.setNodeAddress (fields address width)).mapError fun (field, overflow) =>
      .parse (.violation ⟨field, .overflow overflow⟩)) >>= fun c => .ok ⟨messageType, c⟩ := by
  have hdecode : Message.decode frame =
      (Body.check Zigbee.setNodeAddress ((fields address width).map Field.toRaw)).mapError
        (fun v => .parse (.violation v)) >>= fun c => .ok ⟨messageType, c⟩ :=
    Message.decode_of_branch (t := messageType) hframe
  rw [hdecode, Body.check_toRaw]
  cases Body.ofRow Zigbee.setNodeAddress (fields address width) <;> rfl

/-- An address that fits is accepted in memory, in text and on the wire, as one command. -/
lemma accepted_of_fits (h : Fits address width) :
    ∃ c, new address width = .ok c ∧ c.address = address ∧ c.width = width ∧
      Message.ofText ((draft address width).toJson.render layout) = .ok ⟨messageType, c⟩ ∧
      Message.decode frame = .ok ⟨messageType, c⟩ := by
  obtain ⟨c, hc, hrow⟩ := ofRow_of_fits h
  have hdecode : Message.decode frame = .ok ⟨messageType, c⟩ := by
    rw [decode_draft hframe, hc, mapError_ok, ok_bind]
  refine ⟨c, by rw [new, hc, mapError_ok], ?_, ?_, ?_, hdecode⟩
  · rw [SetNodeAddress.address, hrow]
    rfl
  · rw [SetNodeAddress.width, hrow]
    rfl
  · exact ((draft address width).ofText_eq_ok_iff layout hframe _).mpr hdecode

/-- An address that does not fit is refused in memory, in text and on the wire, for one reason. -/
lemma refused_of_not_fits (h : ¬Fits address width) :
    ∃ length, IsLeast {l | address.toNat < 256 ^ l} length ∧
      new address width = .error ⟨length, 2⟩ ∧
      Message.ofText ((draft address width).toJson.render layout) =
        .error (.complaint (.overflow ⟨length, 2⟩)) ∧
      Message.decode frame = .error (.parse (.violation ⟨"address", .overflow ⟨length, 2⟩⟩)) := by
  have hrule := ofRow_of_not_fits h
  refine ⟨byteWidth address.toNat, isLeast_byteWidth address.toNat_lt, ?_, ?_, ?_⟩
  · rw [new, hrule, mapError_error]
  · have hrefuses := Message.refuses (t := messageType) (Body.refuses_of_rule (by decide) hrule)
    exact hrefuses.run_render layout
  · rw [decode_draft hframe, hrule, mapError_error, error_bind]

end SetNodeAddress

/-! ### The same limits -/

open SetNodeAddress in
/-- The text form and the wire have the same limits. Whatever is assigned to the fields of a
message, the document that spells it and any frame that carries it are accepted together, as one
message. An own address in a ZigBee network is accepted, in memory, in text and on the wire, just
when it fits its width; otherwise all three tell the least number of bytes that hold it, and that
there is room for two. -/
theorem Draft.same_limits :
    (∀ (d : Draft) (layout : Json.Layout) (frame : Bytes), Frame.decode frame = .ok d.toFrame →
      ∀ m, Message.ofText (d.toJson.render layout) = .ok m ↔ Message.decode frame = .ok m) ∧
      ∀ (address : UInt64) (width : addressType.Word) (layout : Json.Layout) (frame : Bytes),
        Frame.decode frame = .ok (draft address width).toFrame →
        (Fits address width →
          ∃ c, new address width = .ok c ∧ c.address = address ∧ c.width = width ∧
            Message.ofText ((draft address width).toJson.render layout) = .ok ⟨messageType, c⟩ ∧
            Message.decode frame = .ok ⟨messageType, c⟩) ∧
        (¬Fits address width →
          ∃ length, IsLeast {l | address.toNat < 256 ^ l} length ∧
            new address width = .error ⟨length, 2⟩ ∧
            Message.ofText ((draft address width).toJson.render layout) =
              .error (.complaint (.overflow ⟨length, 2⟩)) ∧
            Message.decode frame =
              .error (.parse (.violation ⟨"address", .overflow ⟨length, 2⟩⟩))) :=
  ⟨fun d layout _ h => d.ofText_eq_ok_iff layout h, fun _ _ layout _ h =>
    ⟨accepted_of_fits layout h, refused_of_not_fits layout h⟩⟩

/-- An address for a node of an Enhanced ShockBurst network that has a byte too many. -/
def Draft.longNode : Draft := ⟨⟨.esb, ⟨0, by decide⟩⟩, ([1, 2, 3, 4, 5, 6] : Bytes), ()⟩

open SetNodeAddress in
/-- The long address is refused in both forms, and so is the least short address that does not fit.
-/
theorem Draft.same_limits_longNode :
    Frame.decode [0x2a, 10, 0x0a, 8, 0x0a, 6, 1, 2, 3, 4, 5, 6] = .ok longNode.toFrame ∧
      (∀ m, Message.ofText (longNode.toJson.render .indented) = .ok m ↔
        Message.decode [0x2a, 10, 0x0a, 8, 0x0a, 6, 1, 2, 3, 4, 5, 6] = .ok m) ∧
      Message.decode [0x2a, 10, 0x0a, 8, 0x0a, 6, 1, 2, 3, 4, 5, 6] =
        .error (.parse (.violation ⟨"address", .overflow ⟨6, 5⟩⟩)) ∧
      Frame.decode [0x22, 6, 0x0a, 4, 0x08, 0x80, 0x80, 0x04] =
        .ok (draft 0x10000 shortAddress).toFrame ∧
      Fits 0x10000 extendedAddress ∧ ¬Fits 0x10000 shortAddress ∧
      ∃ length, IsLeast {l | (0x10000 : UInt64).toNat < 256 ^ l} length ∧
        new 0x10000 shortAddress = .error ⟨length, 2⟩ ∧
        Message.ofText ((draft 0x10000 shortAddress).toJson.render .compact) =
          .error (.complaint (.overflow ⟨length, 2⟩)) ∧
        Message.decode [0x22, 6, 0x0a, 4, 0x08, 0x80, 0x80, 0x04] =
          .error (.parse (.violation ⟨"address", .overflow ⟨length, 2⟩⟩)) :=
  have hlong : ¬Fits 0x10000 shortAddress := not_or.mpr ⟨by decide, by decide⟩
  ⟨by decide, same_limits.1 longNode .indented _ (by decide), by decide, by decide, .inl rfl, hlong,
    (same_limits.2 0x10000 shortAddress .compact _ (by decide)).2 hlong⟩

end RadioFrame
