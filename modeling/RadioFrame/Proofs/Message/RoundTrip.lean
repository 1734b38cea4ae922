import RadioFrame.Envelope
import RadioFrame.Proofs.Schema.Checking
import RadioFrame.Proofs.Schema.Reading

/-!
Messages and their bytes, there and back.

* `Message.decode_encode`: a message of any type is read back from its bytes. The frame is read back
  from its record (`Frame.merge_encode`), and checking its fields undoes putting them on the wire
  (`Body.exact`).
* `Envelope.pack_unpack`: the other way round, a message taken out of an envelope, whatever bytes
  the envelope was read from, holds all that was in it. So packing it again gives the same envelope,
  and the message has the same bytes as the envelope that was never opened.
-/

namespace RadioFrame

namespace Envelope

/-- Bytes that are a frame of a known type are an envelope. -/
lemma decode_eq_ok_iff {bytes : Bytes} {e : Envelope} :
    decode bytes = .ok e ↔ Frame.decode bytes = .ok e.frame ∧ ∃ t, e.messageType = .ok t := by
  rw [decode, bind_eq_ok]
  constructor
  · rintro ⟨frame, hframe, hrest⟩
    obtain ⟨t, ht, heq⟩ := bind_eq_ok.mp hrest
    cases heq
    exact ⟨mapError_eq_ok.mp hframe, t, ht⟩
  · rintro ⟨hframe, t, ht⟩
    exact ⟨e.frame, mapError_eq_ok.mpr hframe, bind_eq_ok.mpr ⟨t, ht, rfl⟩⟩

/-- An envelope holds a message just when its frame is the one of the message. -/
lemma unpack_eq_ok_iff {e : Envelope} {m : Message} :
    e.unpack = .ok m ↔ m.toFrame = e.frame := by
  obtain ⟨⟨d, k⟩, body⟩ := m
  obtain ⟨frame⟩ := e
  rcases frame with _ | ⟨d', _ | ⟨k', raw⟩⟩
  · constructor
    · intro h
      cases h
    · intro h
      cases h
  · constructor
    · intro h
      cases h
    · intro h
      rw [Message.toFrame] at h
      cases h
  · have hbody := Body.exact (Kind.shape k')
    constructor
    · intro h
      obtain ⟨_, hcheck, hok⟩ := bind_eq_ok.mp h
      cases hok
      have hraw := (hbody raw body).mp (mapError_eq_ok.mp hcheck)
      rw [← hraw]
      rfl
    · intro h
      cases h
      exact bind_eq_ok.mpr ⟨body, mapError_eq_ok.mpr (hbody.check_back body), rfl⟩

end Envelope

/-- Bytes that are read as the frame of a message are read as that message. -/
lemma Message.decode_of_frame {bytes : Bytes} {m : Message}
    (h : Frame.decode bytes = .ok m.toFrame) : Message.decode bytes = .ok m := by
  have henvelope : Envelope.decode bytes = .ok ⟨m.toFrame⟩ :=
    Envelope.decode_eq_ok_iff.mpr ⟨h, m.type, rfl⟩
  rw [decode, henvelope, mapError_ok, ok_bind]
  exact Envelope.unpack_eq_ok_iff.mpr rfl

/-- A message is read just when its frame is. -/
lemma Message.decode_eq_ok_iff {bytes : Bytes} {m : Message} :
    decode bytes = .ok m ↔ Frame.decode bytes = .ok m.toFrame := by
  refine ⟨fun h => ?_, decode_of_frame⟩
  obtain ⟨e, he, hunpack⟩ := bind_eq_ok.mp h
  rw [Envelope.unpack_eq_ok_iff.mp hunpack]
  exact (Envelope.decode_eq_ok_iff.mp (mapError_eq_ok.mp he)).1

/-- A message of any type is read back from its bytes. -/
theorem Message.decode_encode (m : Message) (hlen : m.encode.length < 2 ^ 64) :
    Message.decode m.encode = .ok m :=
  decode_of_frame (Frame.merge_encode m.toFrame hlen)

/-- Two packets that an adapter is to send when a third one is seen. -/
def Message.preparedSequence : Message where
  type := ⟨.ble, ⟨24, by decide⟩⟩
  body := ⟨((7 : UInt32), (1 : Fin 5),
    (⟨(0 : Fin 3), (⟨[1, 2], by decide⟩, ⟨[255, 254], by decide⟩, (300 : UInt32), ())⟩),
    ([⟨[0xde, 0xad], by decide⟩, ⟨[], by decide⟩] : List (Payload 255)), ()), rfl⟩

/-- The prepared sequence is read back. -/
theorem Message.decode_encode_preparedSequence :
    preparedSequence.encode.length < 2 ^ 64 ∧
      Message.decode preparedSequence.encode = .ok preparedSequence :=
  ⟨by decide, decode_encode preparedSequence (by decide)⟩

/-- A message taken out of an envelope can be put back into any other, which then holds the same;
and the bytes of the message read from a byte string are those of the envelope read from it. -/
theorem Envelope.pack_unpack :
    (∀ (e e' : Envelope) (m : Message), e.unpack = .ok m → e'.pack m = e) ∧
      ∀ (bytes : Bytes) (m : Message), Message.decode bytes = .ok m →
        ∃ e, Envelope.decode bytes = .ok e ∧ m.encode = e.encode := by
  have hpack : ∀ (e e' : Envelope) (m : Message), e.unpack = .ok m → e'.pack m = e := by
    intro e e' m h
    rw [pack, unpack_eq_ok_iff.mp h]
  refine ⟨hpack, fun bytes m h => ?_⟩
  obtain ⟨e, he, hm⟩ := bind_eq_ok.mp h
  refine ⟨e, mapError_eq_ok.mp he, ?_⟩
  calc m.encode = (e.pack m).encode := rfl
    _ = e.encode := by rw [hpack e e m hm]

/-- What a device says that can scan and inject in Bluetooth Low Energy, and nothing else. -/
def Message.lowEnergyDevice : Message where
  type := ⟨.discovery, (1 : Fin 7)⟩
  body := ⟨((0 : Fin 8), (⟨[], by decide⟩ : Payload 16), (0 : UInt32), (0 : UInt32),
    (⟨[], by decide⟩ : Payload 64), (⟨[], by decide⟩ : Payload 64),
    ((0 : UInt32), (0 : UInt32), (0 : UInt32), ()),
    ([⟨(3 : Fin 12), ⟨5, by decide⟩⟩] : List DomainCapabilities), ()), rfl⟩

/-- The device says it in bytes that nobody would write: its one capability word stands in a record
of a number and not in a list. -/
theorem Envelope.pack_unpack_lowEnergyDevice :
    (∃ e, e.unpack = .ok Message.lowEnergyDevice ∧ empty.pack Message.lowEnergyDevice = e) ∧
      Message.decode [0x12, 7, 0x12, 5, 0x50, 0x85, 0x80, 0x80, 0x18]
        = .ok Message.lowEnergyDevice ∧
      ∃ e, Envelope.decode [0x12, 7, 0x12, 5, 0x50, 0x85, 0x80, 0x80, 0x18] = .ok e ∧
        Message.lowEnergyDevice.encode = e.encode :=
  ⟨⟨⟨Message.lowEnergyDevice.toFrame⟩, by decide, pack_unpack.1 _ _ _ (by decide)⟩, by decide,
    pack_unpack.2 _ _ (by decide)⟩

end RadioFrame
