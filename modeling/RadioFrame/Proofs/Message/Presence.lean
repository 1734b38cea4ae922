import RadioFrame.Proofs.Frame.Interleaving
import RadioFrame.Proofs.Message.RoundTrip
import RadioFrame.Proofs.Message.Text
import RadioFrame.Proofs.Message.Validation
import RadioFrame.Proofs.Schema.Presence

/-!
Fields that may be absent, on the wire, in a message and in text.

A frame that is accepted may have any records in its body, in any order, repeated or unknown. What
it holds is what its fields make of their own (`MessageType.Wraps.gather_of_decode`), so of a field
that may be absent the records of its tag alone decide (`Body.has_iff_of_gather`).

`Message.decode_presence` follows such a field from the frame to the message, to its text, and
through settings of any number back to the wire. Settings are never refused, because no message with
fields that may be absent ties its fields together (`MessageType.rule_eq_none_of_isOptional`). What
is written in the end is fewer than `2 ^ 64` bytes, as any byte string that fits an address space.
-/

namespace RadioFrame

open Wire (Piece)

namespace MessageType

/-- An accepted frame around records of any kind holds a message of its type, made by the fields of
their own records. -/
lemma Wraps.gather_of_decode {t : MessageType} {ps : List Piece} {frame : Bytes} {m : Message}
    (hframe : t.Wraps (ps.flatMap Piece.bytes) frame) (hdecode : Message.decode frame = .ok m) :
    ∃ b : Body t.shape, m = ⟨t, b⟩ ∧ t.shape.gather (ps.map Piece.record) = .ok b.toRaw := by
  obtain ⟨raw, hraw, hmerges⟩ :=
    hframe.decode_eq_ok_iff.mp (Message.decode_eq_ok_iff.mp hdecode)
  obtain ⟨⟨d, k⟩, b⟩ := m
  obtain ⟨d', k'⟩ := t
  cases hraw
  exact ⟨b, rfl, Shape.gather_of_leads _ (Wire.leads_of_merges (Layer.body _).takesValues hmerges)⟩

/-- Where a field may be absent, no rule ties fields together. -/
lemma rule_eq_none_of_isOptional (t : MessageType) {k : Fin t.shape.fields.length}
    (hopt : (t.shape.fields.get k).form.isOptional = true) : ∀ row, t.shape.rule row = none := by
  rcases t.rule_cases with rfl | ⟨hrule, _⟩
  · have hpresent : ∀ k : Fin Zigbee.setNodeAddress.fields.length,
        (Zigbee.setNodeAddress.fields.get k).form.isOptional = false := by decide
    cases (hpresent k).symm.trans hopt
  · exact hrule

-- the kinds in which fields may be absent
example : (Domain.all.flatMap fun d =>
    (d.shapes.filter fun s => s.fields.any fun f => f.form.isOptional).map fun s => (d, s.name)) =
    [(.ble, "SniffActiveConn"), (.ble, "ConnectTo"), (.ble, "AccessAddressDiscovered"),
      (.ble, "RawPduReceived"), (.zigbee, "RawPduReceived"), (.zigbee, "PduReceived"),
      (.esb, "RawPduReceived"), (.esb, "PduReceived"), (.unifying, "RawPduReceived"),
      (.unifying, "PduReceived"), (.phy, "PacketReceived"), (.phy, "MonitoringReport")] := by
  decide

end MessageType

namespace Message

/-- The fields of a message that may be absent are those of which the frame has a record, however
many others it has; they hold the last value, or what all their records make, even if that is zero,
and zero if they are absent; and they are the ones whose keys are in the text. After any settings
those fields are there that were before or were set, they hold what they were set to last, and all
that is so again when the message was written and read. -/
theorem decode_presence (t : MessageType) (ps : List Piece) (frame : Bytes) (m : Message)
    (hframe : t.Wraps (ps.flatMap Piece.bytes) frame) (hdecode : decode frame = .ok m) :
    ∃ b : Body t.shape, m = ⟨t, b⟩ ∧
      (∀ k : Fin t.shape.fields.length, (t.shape.fields.get k).form.isOptional = true →
        (b.has k = true ↔ ∃ p ∈ ps, p.record.tag = (t.shape.fields.get k).tag) ∧
          (t.shape.fields.get k).form.Says
            (inSlot [(t.shape.fields.get k).tag] (ps.map Piece.record))
            (b.get k)) ∧
      m.render .compact = Json.Value.render .compact
        (.tagged t.domain.name (.tagged t.kindName (.ofMembers b.members))) ∧
      (∀ k : Fin t.shape.fields.length, (t.shape.fields.get k).form.isOptional = true →
        ((t.shape.fields.get k).key ∈ b.members.map Prod.fst ↔ b.has k = true) ∧
          ∀ j, ((t.shape.fields.get k).key, j) ∈ b.members ↔
            b.has k = true ∧ j = (t.shape.fields.get k).form.contentToJson (b.get k)) ∧
      ∀ settings : List t.shape.Setting, ∃ b' : Body t.shape, b.setAll settings = .ok b' ∧
        ((encode ⟨t, b'⟩).length < 2 ^ 64 → decode (encode ⟨t, b'⟩) = .ok ⟨t, b'⟩) ∧
        (∀ k : Fin t.shape.fields.length, (t.shape.fields.get k).form.isOptional = true →
          (b'.has k = true ↔ b.has k = true ∨ ∃ c ∈ settings, c.place = k) ∧
            ((∀ c ∈ settings, c.place ≠ k) → b'.get k = b.get k)) ∧
        ∀ before c after, settings = before ++ c :: after →
          (∀ c' ∈ after, c'.place ≠ c.place) → b'.get c.place = c.content := by
  obtain ⟨b, rfl, hgather⟩ := hframe.gather_of_decode hdecode
  have hkeys : (t.shape.fields.map Field.key).Nodup :=
    (t.domain.distinctNames t.shape (List.getElem_mem _)).1
  refine ⟨b, rfl, fun k hopt => ?_, rfl,
    fun k _ => ⟨Body.key_mem_iff hkeys k, Body.mem_members_iff hkeys k⟩, fun settings => ?_⟩
  · obtain ⟨hhas, hsays⟩ := Body.has_iff_of_gather hgather k hopt
    refine ⟨hhas.trans ?_, hsays⟩
    simp [inSlot, List.filter_eq_nil_iff]
  · have hset : ∃ b' : Body t.shape, b.setAll settings = .ok b' := by
      cases settings with
      | nil => exact ⟨b, rfl⟩
      | cons c cs => exact Body.exists_setAll (t.rule_eq_none_of_isOptional c.isOptional) _ b
    obtain ⟨b', hb'⟩ := hset
    refine ⟨b', hb', fun hlen => decode_of_frame (Frame.merge_encode _ hlen), fun k _ =>
      ⟨Body.has_iff_of_setAll k hb', Body.get_of_setAll k hb'⟩, ?_⟩
    rintro before c after rfl hafter
    exact Body.get_of_setAll_last hb' hafter

end Message

/-! ### A packet that is received without strength -/

namespace ReceivedPacket

/-- The type of packets that are received without regard to a protocol. -/
def packetType : MessageType := ⟨.phy, (⟨20, by decide⟩ : Fin 23)⟩

/-- The place of the strength of the signal. -/
def strengthPlace : Fin packetType.shape.fields.length := ⟨1, by decide⟩

/-- The place of the moment. -/
def momentPlace : Fin packetType.shape.fields.length := ⟨2, by decide⟩

/-- A strength. -/
def someStrength : Piece := .ofNumber 2 40 (by decide) (by decide)

/-- A strength of zero. -/
def noStrength : Piece := .ofNumber 2 0 (by decide) (by decide)

/-- The seconds of a moment. -/
def seconds : Piece := .ofContent 3 [8, 5] ⟨by decide, by decide⟩ (by decide)

/-- The microseconds of a moment. -/
def microseconds : Piece := .ofContent 3 [0x10, 7] ⟨by decide, by decide⟩ (by decide)

/-- A record of an unknown field. -/
def stray : Piece := .ofNumber 12 3 (by decide) (by decide)

/-- A strength that is told twice, and a moment that is told in two parts. -/
def told : List Piece := [someStrength, seconds, stray, noStrength, microseconds]

/-- A packet of a given strength and moment, without content. -/
def packet (strength : Option Int32) (moment : Option (UInt32 × UInt32 × Unit)) :
    Body packetType.shape :=
  ⟨((0 : UInt64), strength, moment, (Payload.empty : Payload 255), ()), rfl⟩

/-- Sets the strength. -/
def setStrength (strength : Int32) : packetType.shape.Setting where
  place := strengthPlace
  isOptional := rfl
  content := strength

end ReceivedPacket

open ReceivedPacket in
/-- The strength is there though it is zero in the end, and the moment has both of its parts. Where
nothing is told the strength is zero as well, but is not there nor in the text; once it is set it
is, and is what it was set to last. -/
theorem Message.decode_presence_receivedPacket :
    (∃ b : Body packetType.shape,
        decode (packetType.around (told.flatMap Piece.bytes)) = .ok ⟨packetType, b⟩ ∧
        b.has strengthPlace = true ∧ b.get strengthPlace = (0 : Int32) ∧
        b.has momentPlace = true ∧ b.get momentPlace = ((5 : UInt32), (7 : UInt32), ())) ∧
      ∃ b b' : Body packetType.shape, decode (packetType.around []) = .ok ⟨packetType, b⟩ ∧
        b.has strengthPlace = false ∧ b.get strengthPlace = (0 : Int32) ∧
        "rssi" ∉ b.members.map Prod.fst ∧
        b.setAll [setStrength 4, setStrength 0] = .ok b' ∧
        decode (encode ⟨packetType, b'⟩) = .ok ⟨packetType, b'⟩ ∧
        b'.has strengthPlace = true ∧ b'.get strengthPlace = (0 : Int32) := by
  constructor
  · obtain ⟨b, hb, hpresent, -⟩ := decode_presence packetType told _
      ⟨packetType, packet (some 0) (some (5, 7, ()))⟩ (packetType.wraps_around (by decide))
      (by decide)
    obtain rfl := eq_of_heq (Message.mk.inj hb).2
    have hstrength := (hpresent strengthPlace rfl).1.mpr ⟨noStrength, by simp [told], rfl⟩
    have hmoment := (hpresent momentPlace rfl).1.mpr ⟨seconds, by simp [told], rfl⟩
    exact ⟨_, by decide, hstrength, rfl, hmoment, rfl⟩
  · obtain ⟨b, hb, hpresent, -, htext, hset⟩ := decode_presence packetType [] _
      ⟨packetType, packet none none⟩ (packetType.wraps_around (by decide)) (by decide)
    obtain rfl := eq_of_heq (Message.mk.inj hb).2
    have habsent : ¬(packet none none).has strengthPlace = true := fun hhas => by
      obtain ⟨p, hp, -⟩ := (hpresent strengthPlace rfl).1.mp hhas
      exact absurd hp List.not_mem_nil
    obtain ⟨b', hb', hround, hhas, hlast⟩ := hset [setStrength 4, setStrength 0]
    obtain rfl : packet (some 0) none = b' := Except.ok.inj hb'
    exact ⟨_, _, by decide, Bool.eq_false_iff.mpr habsent, rfl,
      mt (htext strengthPlace rfl).1.mp habsent, hb', hround (by decide),
      (hhas strengthPlace rfl).1.mpr (.inr ⟨_, List.mem_cons_self, rfl⟩),
      hlast [setStrength 4] (setStrength 0) [] rfl (List.forall_mem_nil _)⟩

end RadioFrame
