import RadioFrame.Proofs.Message.RoundTrip
import RadioFrame.Proofs.Message.Validation
import RadioFrame.Proofs.Schema.Steady

/-!
Two messages run together.

The bytes of one message behind those of another are a frame of two records, of which the second is
put over the first (`Frame.overlay`). A message of another type is replaced. Of one type, the fields
are put over each other (`Body.overlay`), and what comes of two acceptable bodies is acceptable:
each field is, and short addresses stay short (`MessageType.rule_overlay`). So two messages are
always read as one (`Message.decode_append`). The bytes of each are fewer than `2 ^ 64`, as those of
any message in memory are, so that its lengths can be written.
-/

namespace RadioFrame

/-! ### Bodies -/

/-- The rule on addresses is kept just by addresses that are extended or fit two bytes. -/
lemma Zigbee.shortAddressRule_eq_none_iff {address : UInt64} {kind : addressType.Word} :
    shortAddressRule (address, kind, ()) = none ↔
      (kind = addressType.first → address.toNat < UInt16.size) := by
  change (if kind = addressType.first ∧ UInt16.size ≤ address.toNat then
    some ("address", (⟨byteWidth address.toNat, 2⟩ : Overflow)) else none) = none ↔ _
  rw [ite_eq_right_iff]
  constructor
  · intro h hkind
    refine Nat.lt_of_not_le fun hlong => ?_
    cases h ⟨hkind, hlong⟩
  · rintro h ⟨hkind, hlong⟩
    exact absurd (h hkind) (Nat.not_lt_of_le hlong)

/-- An address that is called short in the end was called so in both, and is one of the two. -/
lemma Zigbee.shortAddressRule_overlay {a b : Row Field.Value nodeAddressFields}
    (ha : shortAddressRule a = none) (hb : shortAddressRule b = none) :
    shortAddressRule (Row.zipWith Field.overlay a b) = none := by
  obtain ⟨address, kind, ⟨⟩⟩ : UInt64 × addressType.Word × Unit := a
  obtain ⟨address', kind', ⟨⟩⟩ : UInt64 × addressType.Word × Unit := b
  have haddress := shortAddressRule_eq_none_iff.mp ha
  have haddress' := shortAddressRule_eq_none_iff.mp hb
  refine shortAddressRule_eq_none_iff.mpr fun hfirst => ?_
  have hkinds : kind = addressType.first ∧ kind' = addressType.first := by
    by_cases hzero : Vocabulary.number kind' = 0
    · exact ⟨(if_pos hzero).symm.trans hfirst, (number_eq_zero_iff kind').mp hzero⟩
    · exact absurd ((number_eq_zero_iff kind').mpr ((if_neg hzero).symm.trans hfirst)) hzero
  change UInt64.toNat (if address' = 0 then address else address') < UInt16.size
  split
  · exact haddress hkinds.1
  · exact haddress' hkinds.2

/-- The rule of a type is kept by the fields of two bodies that keep it, put over each other. -/
lemma MessageType.rule_overlay (t : MessageType) (a b : Body t.shape) :
    t.shape.rule (Row.zipWith Field.overlay a.row b.row) = none := by
  rcases t.rule_cases with rfl | ⟨hrule, _⟩
  · exact Zigbee.shortAddressRule_overlay a.lawful b.lawful
  · exact hrule _

/-- A body over another of the same type, field by field. -/
def Body.overlay {t : MessageType} (a b : Body t.shape) : Body t.shape where
  row := Row.zipWith Field.overlay a.row b.row
  lawful := t.rule_overlay a b

lemma Body.toRaw_overlay {t : MessageType} (a b : Body t.shape) :
    (a.overlay b).toRaw = t.shape.overlayRaw a.toRaw b.toRaw :=
  (Row.zipWith_map (fun f v w => f.form.overlayRaw_toRaw v w) a.row b.row).symm

/-! ### Messages -/

namespace Message

/-- A message of another type is replaced. -/
lemma overlay_toFrame_of_ne {m₁ m₂ : Message} (h : m₁.type ≠ m₂.type) :
    m₁.toFrame.overlay m₂.toFrame = m₂.toFrame := by
  obtain ⟨⟨d, k⟩, a⟩ := m₁
  obtain ⟨⟨d', k'⟩, b⟩ := m₂
  by_cases hd : d = d'
  · subst hd
    have hk : k ≠ k' := fun heq => h (congrArg (MessageType.mk d) heq)
    have hbranch : Frame.overlayBranch d (some ⟨k, a.toRaw⟩) (some ⟨k', b.toRaw⟩)
        = some ⟨k', b.toRaw⟩ :=
      OneOf.overlay?_of_ne (V := fun k : Kind d => (Kind.shape k).Raw)
        (fun k raw => (Kind.shape k).overlayRaw_blank raw) hk
    rw [toFrame, toFrame, Frame.overlay, OneOf.overlay?_self, hbranch]
  · exact OneOf.overlay?_of_ne (fun _ branch => Frame.overlayBranch_none branch) hd

/-- A message of the same type is put over the other. -/
lemma overlay_toFrame {t : MessageType} (a b : Body t.shape) :
    (toFrame ⟨t, a⟩).overlay (toFrame ⟨t, b⟩) = toFrame ⟨t, a.overlay b⟩ := by
  have hbranch : Frame.overlayBranch t.domain (some ⟨t.kind, a.toRaw⟩) (some ⟨t.kind, b.toRaw⟩)
      = some ⟨t.kind, (a.overlay b).toRaw⟩ := by
    rw [Body.toRaw_overlay]
    exact OneOf.overlay?_self (V := fun k : Kind t.domain => (Kind.shape k).Raw) t.kind _ _
  rw [toFrame, toFrame, Frame.overlay, OneOf.overlay?_self, hbranch, toFrame]

/-- Bytes of two messages in a row are one message of the type of the second: the second itself if
the first was of another type, and otherwise the second over the first, field by field. -/
theorem decode_append (m₁ m₂ : Message) (h₁ : m₁.encode.length < 2 ^ 64)
    (h₂ : m₂.encode.length < 2 ^ 64) :
    ∃ m, decode (m₁.encode ++ m₂.encode) = .ok m ∧ m.type = m₂.type ∧
      (m₁.type ≠ m₂.type → m = m₂) ∧
      ∀ (t : MessageType) (a b : Body t.shape), m₁ = ⟨t, a⟩ → m₂ = ⟨t, b⟩ →
        ∃ c : Body t.shape, m = ⟨t, c⟩ ∧ c.row = Row.zipWith Field.overlay a.row b.row := by
  have hframe : Frame.decode (m₁.encode ++ m₂.encode) = .ok (m₁.toFrame.overlay m₂.toFrame) :=
    (Wire.merge_append_of_isSteady Frame.isSteady (Frame.merge_encode m₁.toFrame h₁) _).trans
      (Frame.merge_encode_overlay _ _ h₂)
  by_cases htype : m₁.type = m₂.type
  · obtain ⟨t, a⟩ := m₁
    obtain ⟨t', b⟩ := m₂
    cases htype
    rw [overlay_toFrame] at hframe
    refine ⟨⟨t, a.overlay b⟩, decode_of_frame hframe, rfl, fun hne => absurd rfl hne, ?_⟩
    intro u a' b' ha hb
    cases ha
    cases hb
    exact ⟨a.overlay b, rfl, rfl⟩
  · rw [overlay_toFrame_of_ne htype] at hframe
    refine ⟨m₂, decode_of_frame hframe, rfl, fun _ => rfl, ?_⟩
    rintro t a b rfl rfl
    exact absurd rfl htype

/-- Sets an extended address. -/
def extendedAddress : Message where
  type := ⟨.zigbee, ⟨0, by decide⟩⟩
  body := ⟨((0x1122334455667788 : UInt64), (⟨1, by decide⟩ : Fin 2), ()), rfl⟩

/-- Sets a short address. -/
def shortAddress : Message where
  type := ⟨.zigbee, ⟨0, by decide⟩⟩
  body := ⟨((0x1234 : UInt64), addressType.first, ()), rfl⟩

/-- A short address behind an extended one is taken for extended, since to be short is not written.
A prepared sequence behind another goes on where that ends, and a device is known by its own
message whatever came before. -/
theorem decode_append_shortAddress :
    (∃ c : Body Zigbee.setNodeAddress,
        decode (extendedAddress.encode ++ shortAddress.encode)
          = .ok ⟨⟨.zigbee, (0 : Fin 16)⟩, c⟩ ∧
        c.row = ((0x1234 : UInt64), (1 : Fin 2), ())) ∧
      (∃ c : Body (MessageType.shape ⟨.ble, (24 : Fin 38)⟩),
        decode (preparedSequence.encode ++ preparedSequence.encode)
          = .ok ⟨⟨.ble, (24 : Fin 38)⟩, c⟩ ∧
        c.row = ((7 : UInt32), (1 : Fin 5),
          (⟨(0 : Fin 3), (⟨[1, 2], by decide⟩, ⟨[255, 254], by decide⟩, (300 : UInt32), ())⟩),
          ([⟨[0xde, 0xad], by decide⟩, ⟨[], by decide⟩, ⟨[0xde, 0xad], by decide⟩,
            ⟨[], by decide⟩] : List (Payload 255)), ())) ∧
      decode (preparedSequence.encode ++ lowEnergyDevice.encode) = .ok lowEnergyDevice := by
  refine ⟨?_, ?_, ?_⟩
  · obtain ⟨_, hdecode, _, _, hsame⟩ :=
      decode_append extendedAddress shortAddress (by decide) (by decide)
    obtain ⟨c, rfl, hrow⟩ := hsame _ _ _ rfl rfl
    exact ⟨c, hdecode, hrow.trans rfl⟩
  · obtain ⟨_, hdecode, _, _, hsame⟩ :=
      decode_append preparedSequence preparedSequence (by decide) (by decide)
    obtain ⟨c, rfl, hrow⟩ := hsame _ _ _ rfl rfl
    exact ⟨c, hdecode, hrow.trans rfl⟩
  · obtain ⟨_, hdecode, _, hother, _⟩ :=
      decode_append preparedSequence lowEnergyDevice (by decide) (by decide)
    exact hother (by decide) ▸ hdecode

end Message

end RadioFrame
