import RadioFrame.Envelope
import RadioFrame.Proofs.Schema.Gathering

/-!
The order of records in a body.

A body is read from records that may stand in any order. Of two bodies whose records agree slot by
slot, however those of different slots are interleaved and whatever unknown records stand in
between, the frames around them are read alike, and so are their messages
(`Frame.decode_interleaving`). What the frame holds is what `Shape.gather` makes of the records:
each field of its own, the last value, all in order, or merged in order.

Keys and lengths around a body may be spelled in any way (`MessageType.Wraps`), and of the records
it is enough that each can be read alone (`MessageType.Accepts`).
-/

namespace RadioFrame

open Wire (IsKey IsNumber Merges FieldReaders Piece mergeRecord maxDepth)

/-! ### Frames around a body -/

/-- The bytes of a frame that holds a body of a given type, whose bytes are given, and nothing
else. -/
def MessageType.Wraps (t : MessageType) (body frame : Bytes) : Prop :=
  ∃ k w k' w', frame = k ++ (w ++ (k' ++ (w' ++ body))) ∧
    IsKey k ⟨t.domain.tag, .lengthDelimited⟩ ∧ IsNumber w (k' ++ (w' ++ body)).length ∧
    IsKey k' ⟨t.kindTag, .lengthDelimited⟩ ∧ IsNumber w' body.length

/-- A record is read as a body of a given type, if it is the only one. -/
def MessageType.Accepts (t : MessageType) (p : Piece) : Prop :=
  ∃ frame f, t.Wraps p.bytes frame ∧ Frame.decode frame = .ok f

/-- What a frame around a body holds is what the body is read as. -/
lemma MessageType.Wraps.decode_eq_ok_iff {t : MessageType} {body frame : Bytes} {f : Frame}
    (h : t.Wraps body frame) :
    Frame.decode frame = .ok f ↔
      ∃ raw, f = some ⟨t.domain, some ⟨t.kind, raw⟩⟩ ∧
        Merges t.shape.wireName t.shape.readers Shape.depth t.shape.blank body raw := by
  obtain ⟨k, w, k', w', rfl, hk, hw, hk', hw'⟩ := h
  have hdomain : Merges Frame.messageName Frame.readers maxDepth none _ f ↔ _ :=
    Wire.merges_oneOf_iff (fun _ => Frame.messageName) Frame.branchReaders Frame.isSteady_branch
      t.domain.ofWireTag?_tag hk hw
  have hkind : ∀ branch,
      Merges Frame.messageName (Frame.branchReaders t.domain) 99 none _ branch ↔ _ :=
    fun branch => Wire.merges_oneOf_iff (fun k : Kind t.domain => (Kind.shape k).wireName)
      (fun k => (Kind.shape k).readers) (fun k => (Kind.shape k).isSteady)
      (Kind.ofWireTag?_tag t.kind) hk' hw'
  refine (Wire.merge_eq_ok_iff Frame.isSteady).trans (hdomain.trans ?_)
  constructor
  · rintro ⟨branch, rfl, hbranch⟩
    obtain ⟨raw, rfl, hraw⟩ := (hkind branch).mp hbranch
    exact ⟨raw, rfl, hraw⟩
  · rintro ⟨raw, rfl, hraw⟩
    exact ⟨some ⟨t.kind, raw⟩, rfl, (hkind _).mpr ⟨raw, rfl, hraw⟩⟩

/-- A record that is accepted alone is one step of the body. -/
lemma MessageType.Accepts.consumes {t : MessageType} {p : Piece} (h : t.Accepts p) :
    ∃ s u,
      Wire.Consumes (mergeRecord t.shape.wireName t.shape.readers Shape.depth) s p.bytes u := by
  obtain ⟨frame, f, hframe, hdecode⟩ := h
  obtain ⟨raw, _, hraw⟩ := hframe.decode_eq_ok_iff.mp hdecode
  exact ⟨_, raw, Wire.consumes_of_merges (Layer.body t.shape).takesValues hraw⟩

/-- A frame around records each of which is one step of the body holds what the fields make of
them. -/
lemma MessageType.Wraps.decode_eq_gather_of_consumes {t : MessageType} {ps : List Piece}
    {frame : Bytes} (h : t.Wraps (ps.flatMap Piece.bytes) frame)
    (hps : ∀ p ∈ ps, ∃ s u,
      Wire.Consumes (mergeRecord t.shape.wireName t.shape.readers Shape.depth) s p.bytes u) :
    ∃ raw, t.shape.gather (ps.map Piece.record) = .ok raw ∧
      Frame.decode frame = .ok (some ⟨t.domain, some ⟨t.kind, raw⟩⟩) := by
  have hstep := t.shape.isSteady.mergeRecord t.shape.wireName Shape.depth
  have hall : ∀ w ∈ ps.map Piece.bytes, ∃ s u,
      Wire.Consumes (mergeRecord t.shape.wireName t.shape.readers Shape.depth) s w u := by
    intro w hw
    obtain ⟨p, hp, rfl⟩ := List.mem_map.mp hw
    exact hps p hp
  obtain ⟨raw, hraw⟩ := Wire.exists_leads
    (t.shape.isUniform.mergeRecord t.shape.wireName Shape.depth) hstep hall t.shape.blank
  exact ⟨raw, t.shape.gather_of_leads hraw,
    h.decode_eq_ok_iff.mpr ⟨raw, rfl, ps.map Piece.bytes, List.flatMap_def, hraw⟩⟩

/-- A frame around records each of which is accepted holds what the fields make of them. -/
lemma MessageType.Wraps.decode_eq_gather {t : MessageType} {ps : List Piece} {frame : Bytes}
    (h : t.Wraps (ps.flatMap Piece.bytes) frame) (hps : ∀ p ∈ ps, t.Accepts p) :
    ∃ raw, t.shape.gather (ps.map Piece.record) = .ok raw ∧
      Frame.decode frame = .ok (some ⟨t.domain, some ⟨t.kind, raw⟩⟩) :=
  h.decode_eq_gather_of_consumes fun p hp => (hps p hp).consumes

/-- What a message is depends on its frame only. -/
lemma Message.decode_congr {bytes bytes' : Bytes} (h : Frame.decode bytes = Frame.decode bytes') :
    decode bytes = decode bytes' := by
  rw [decode, decode, Envelope.decode, Envelope.decode, h]

/-- The order of records in a body does not matter beyond their slots. Frames around records that
agree slot by slot are read alike, each field from its own records, and the messages in them are
alike, or what is wrong with them is. -/
theorem Frame.decode_interleaving (t : MessageType) (ps ps' : List Piece) (frame frame' : Bytes)
    (hps : ∀ p ∈ ps, t.Accepts p) (hps' : ∀ p ∈ ps', t.Accepts p)
    (hslots : ∀ slot ∈ t.shape.slots,
      inSlot slot (ps.map Piece.record) = inSlot slot (ps'.map Piece.record))
    (hframe : t.Wraps (ps.flatMap Piece.bytes) frame)
    (hframe' : t.Wraps (ps'.flatMap Piece.bytes) frame') :
    (∃ raw, t.shape.gather (ps.map Piece.record) = .ok raw ∧
        decode frame = .ok (some ⟨t.domain, some ⟨t.kind, raw⟩⟩)) ∧
      decode frame' = decode frame ∧ Message.decode frame' = Message.decode frame := by
  obtain ⟨raw, hraw, hdecode⟩ := hframe.decode_eq_gather hps
  obtain ⟨raw', hraw', hdecode'⟩ := hframe'.decode_eq_gather hps'
  rw [← t.shape.gather_congr hslots, hraw] at hraw'
  cases hraw'
  have hsame : decode frame' = decode frame := hdecode'.trans hdecode.symm
  exact ⟨⟨raw, hraw, hdecode⟩, hsame, Message.decode_congr hsame⟩

/-! ### A sequence whose records are shuffled -/

/-- The shortest frame around a body. -/
def MessageType.around (t : MessageType) (body : Bytes) : Bytes :=
  Wire.writeDelimited t.domain.tag (Wire.writeDelimited t.kindTag body)

/-- A frame with one kind is written as the shortest frame around its body. -/
lemma MessageType.encode_eq_around (t : MessageType) (raw : t.shape.Raw) :
    Frame.encode (Branch.wrap ⟨t.kind, raw⟩) = t.around (t.shape.write raw) := by
  rw [around, kindTag, ← Domain.wireTag_eq_tag, ← Kind.wireTag_eq_tag]
  rfl

lemma MessageType.wraps_around (t : MessageType) {body : Bytes}
    (hlen : (Wire.writeDelimited t.kindTag body).length < 2 ^ 64) :
    t.Wraps body (t.around body) := by
  have hbody : body.length < 2 ^ 64 := by
    have hle := Wire.length_le_writeSized body
    rw [Wire.writeDelimited, List.length_append] at hlen
    omega
  have hdomain := Frame.validTag_domain t.domain
  have hkind := Frame.validTag_kind t.kind
  rw [Domain.wireTag_eq_tag] at hdomain
  rw [Kind.wireTag_eq_tag] at hkind
  exact ⟨_, _, _, _, rfl, Wire.isKey_writeKey hdomain _, Wire.isNumber_write hlen,
    Wire.isKey_writeKey hkind _, Wire.isNumber_write hbody⟩

/-- A record is accepted if the shortest frame around it is. -/
lemma MessageType.accepts_of_around (t : MessageType) {p : Piece}
    (hlen : (Wire.writeDelimited t.kindTag p.bytes).length < 2 ^ 64)
    (hok : (Frame.decode (t.around p.bytes)).isOk = true) : t.Accepts p := by
  cases hdecode : Frame.decode (t.around p.bytes) with
  | error e =>
      rw [hdecode] at hok
      cases hok
  | ok f => exact ⟨_, f, t.wraps_around hlen, hdecode⟩

/-- A record of a number of one byte. -/
def Wire.Piece.ofNumber (tag : Nat) (n : UInt8)
    (htag : ValidTag tag) (hnumber : readNumber [n] = .ok (n.toNat, [])) : Piece where
  record := ⟨tag, .varint, [n]⟩
  head := writeKey tag .varint
  isKey := isKey_writeKey htag .varint
  isValue := ⟨1, .number (isNumber_of_read hnumber)⟩

/-- A record of a message or a byte string. -/
def Wire.Piece.ofContent (tag : Nat) (content : Bytes)
    (htag : ValidTag tag) (hlength : content.length < 2 ^ 64) : Piece where
  record := .delimited tag content
  head := writeKey tag .lengthDelimited
  isKey := isKey_writeKey htag .lengthDelimited
  isValue := ⟨1, .sized (isNumber_write hlength)⟩

namespace PreparedSequence

/-- The number of the sequence. -/
def firstNumber : Piece := .ofNumber 4 1 (by decide) (by decide)

/-- Another number of the sequence. -/
def secondNumber : Piece := .ofNumber 4 2 (by decide) (by decide)

/-- The trigger that is a command. -/
def manual : Piece := .ofContent 3 [] (by decide) (by decide)

/-- The trigger that is a received packet, with an offset. -/
def offset : Piece := .ofContent 1 [0x18, 5] (by decide) (by decide)

/-- The trigger that is a received packet, with a pattern. -/
def pattern : Piece := .ofContent 1 [0x0a, 1, 0xff] (by decide) (by decide)

/-- A packet. -/
def firstPacket : Piece := .ofContent 6 [0xaa] (by decide) (by decide)

/-- Another packet. -/
def secondPacket : Piece := .ofContent 6 [0xbb] (by decide) (by decide)

/-- A record of an unknown field. -/
def stray : Piece := .ofNumber 9 7 (by decide) (by decide)

/-- The records field by field. -/
def ordered : List Piece :=
  [manual, offset, pattern, firstNumber, secondNumber, firstPacket, secondPacket]

/-- The fields shuffled, and the unknown record in between. -/
def shuffled : List Piece :=
  [firstNumber, firstPacket, manual, stray, offset, secondPacket, secondNumber, pattern]

/-- The type of the messages that prepare a sequence. -/
def type : MessageType := ⟨.ble, (⟨24, by decide⟩ : Fin 38)⟩

end PreparedSequence

open PreparedSequence in
/-- Both ways the sequence has its second number, both packets, and of the triggers the last one,
whose pattern and offset come from records of their own. -/
theorem Frame.decode_interleaving_preparedSequence :
    decode (type.around (shuffled.flatMap Piece.bytes)) =
        .ok (some ⟨.ble, some ⟨(⟨24, by decide⟩ : Fin 38),
          ((2 : UInt32), (0 : Int32),
            (some ⟨(⟨0, by decide⟩ : Fin 3), (([0xff] : Bytes), ([] : Bytes), (5 : UInt32), ())⟩ :
              Option (OneOf fun i : Fin 3 => (Bluetooth.triggers.get i).submessage.Raw)),
            ([[0xaa], [0xbb]] : List Bytes), ())⟩⟩) ∧
      Message.decode (type.around (shuffled.flatMap Piece.bytes)) =
        Message.decode (type.around (ordered.flatMap Piece.bytes)) := by
  have haccepts : ∀ p ∈ ordered ++ shuffled, type.Accepts p := by
    have hall : ∀ p ∈ ordered ++ shuffled,
        (Wire.writeDelimited type.kindTag p.bytes).length < 2 ^ 64 ∧
          (decode (type.around p.bytes)).isOk = true := by decide
    exact fun p hp => type.accepts_of_around (hall p hp).1 (hall p hp).2
  have hsame := decode_interleaving type ordered shuffled
    (type.around (ordered.flatMap Piece.bytes)) (type.around (shuffled.flatMap Piece.bytes))
    (fun p hp => haccepts p (List.mem_append_left _ hp))
    (fun p hp => haccepts p (List.mem_append_right _ hp)) (by decide)
    (type.wraps_around (by decide)) (type.wraps_around (by decide))
  exact ⟨by decide, hsame.2.2⟩

end RadioFrame
