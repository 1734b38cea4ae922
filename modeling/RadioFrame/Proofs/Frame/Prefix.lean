import Mathlib.Data.List.Infix
import RadioFrame.Envelope
import RadioFrame.Proofs.Message.RoundTrip
import RadioFrame.Proofs.Wire.Grammar

/-!
Frames that are cut short.

All that a frame writes is one record, and the record says how long it is: its key is one byte, the
length behind the key is told from what follows it (`Wire.Varint.Groups.eq_of_append`), and the
content has that length. So whatever is missing at the end is missed, in the length or behind it
(`Wire.readDelimited_of_cut`), and nothing that goes on behind the bytes of a frame is a frame that
is written (`Frame.encode_eq_of_prefix`).

`Message.decode_of_cut` states this for the bytes of messages and all that reads them. The bytes may
be of any number: a length that is too great to be read is a fault as well.
-/

namespace RadioFrame

/-! ### One record -/

namespace Wire

/-- When a length and its bytes are cut short, the length cannot be read or tells of more bytes than
there are. -/
lemma readNumber_of_cut {content p cut : Bytes} (hcut : cut ≠ [])
    (h : p ++ cut = writeSized content) :
    readNumber p = .error (.plain .badVarint) ∨
      ∃ rest, readNumber p = .ok (content.length, rest) ∧ rest.length < content.length := by
  cases hread : readNumber p with
  | error e =>
      rw [readNumber] at hread
      split at hread
      · cases hread
      · exact .inl hread.symm
  | ok r =>
      obtain ⟨n, rest⟩ := r
      obtain ⟨w, rfl, hw⟩ := readNumber_eq_ok_iff.mp hread
      rw [List.append_assoc] at h
      obtain ⟨rfl, rfl⟩ := hw.groups.eq_of_append (Varint.groups_write content.length) h
      have hpos := List.length_pos_iff.mpr hcut
      refine .inr ⟨rest, rfl, ?_⟩
      rw [List.length_append]
      omega

/-- A length and its bytes cannot be read before they are all there, whatever the bytes are. -/
lemma readDelimited_of_cut {σ : Type} (step : σ → Bytes → Except Fault (σ × Bytes)) (s : σ)
    {content p : Bytes} (hp : p <+: writeSized content) (hne : p ≠ writeSized content) :
    ∃ cause, (cause = .badVarint ∨ cause = .underflow) ∧
      readDelimited step s p = .error (.plain cause) := by
  obtain ⟨cut, hcut⟩ := hp
  have hmissing : cut ≠ [] := by
    rintro rfl
    exact hne (by rw [← hcut, List.append_nil])
  rcases readNumber_of_cut hmissing hcut with hread | ⟨rest, hread, hlt⟩
  · refine ⟨.badVarint, .inl rfl, ?_⟩
    rw [readDelimited, hread]
    rfl
  · refine ⟨.underflow, .inr rfl, ?_⟩
    rw [readDelimited, hread, ok_bind]
    exact if_pos hlt

/-- A message inside a message cannot be read before its bytes are all there. -/
lemma mergeDelimited_of_cut {σ : Type} (name : String) (fields : FieldReaders σ) (budget : Nat)
    (s : σ) {content p : Bytes} (hp : p <+: writeSized content) (hne : p ≠ writeSized content) :
    ∃ cause, (cause = .badVarint ∨ cause = .underflow) ∧
      mergeDelimited name fields .lengthDelimited (budget + 1) s p = .error (.plain cause) := by
  obtain ⟨cause, hcause, hread⟩ := readDelimited_of_cut (mergeRecord name fields budget) s hp hne
  refine ⟨cause, hcause, ?_⟩
  rw [mergeDelimited, expect, if_pos rfl, ok_bind]
  exact hread

/-- Of two byte strings with their lengths in front, neither goes on behind the other. -/
lemma writeSized_eq_of_prefix {a b : Bytes} (h : writeSized a <+: writeSized b) : a = b := by
  obtain ⟨more, hmore⟩ := h
  rw [writeSized, writeSized, List.append_assoc] at hmore
  obtain ⟨hlen, rfl⟩ :=
    (Varint.groups_write a.length).eq_of_append (Varint.groups_write b.length) hmore
  have hnil : more = [] := by
    rw [List.length_append] at hlen
    exact List.length_eq_zero_iff.mp (by omega)
  rw [hnil, List.append_nil]

end Wire

/-! ### Frames -/

namespace Frame

/-- What is written of a frame that holds a domain: a key of one byte, and the domain's message with
its length in front. -/
lemma exists_encode (d : Domain) (branch : Option (Branch d)) :
    ∃ b, Wire.writeKey d.wireTag .lengthDelimited = [b] ∧
      encode (some ⟨d, branch⟩) = b :: Wire.writeSized (encodeBranch branch) := by
  obtain ⟨b, hb⟩ : ∃ b, Wire.writeKey d.wireTag .lengthDelimited = [b] := by
    cases d <;> exact ⟨_, rfl⟩
  refine ⟨b, hb, ?_⟩
  rw [encode, Wire.writeDelimited, hb]
  rfl

/-- The bytes of a frame cannot be read before they are all there. What is missed is told of the
domain. -/
theorem decode_eq_error_of_cut {f : Frame} {p : Bytes} (hp : p <+: f.encode) (hne : p ≠ f.encode)
    (hnil : p ≠ []) :
    ∃ cause, (cause = .badVarint ∨ cause = .underflow) ∧
      decode p = .error ⟨[(messageName, groupName)], cause⟩ := by
  rcases f with _ | ⟨d, branch⟩
  · exact absurd (List.prefix_nil.mp hp) hnil
  · obtain ⟨b, hkey, hencode⟩ := exists_encode d branch
    rw [hencode] at hp hne
    obtain rfl | ⟨q, rfl, hq⟩ := List.prefix_cons_iff.mp hp
    · exact absurd rfl hnil
    obtain ⟨cause, hcause, hbranch⟩ := Wire.mergeDelimited_of_cut messageName (branchReaders d) 99
      none hq fun heq => hne (by rw [heq])
    refine ⟨cause, hcause, ?_⟩
    have hrecord : Wire.mergeRecord messageName readers Wire.maxDepth none (b :: q)
        = .error ⟨[(messageName, groupName)], cause⟩ := by
      have hbytes : b :: q = Wire.writeKey d.wireTag .lengthDelimited ++ q := by
        rw [hkey, List.singleton_append]
      have hreader : readers d.wireTag = _ := congrArg (Option.map _) d.ofWireTag?_wireTag
      rw [hbytes, Wire.mergeRecord, Wire.readKey_writeKey (validTag_domain d), ok_bind]
      dsimp only
      rw [hreader]
      -- nothing was read before, and the budget is one more than what is left for the content
      change Except.mapError _ (Wire.mergeDelimited messageName (branchReaders d) .lengthDelimited
        (99 + 1) none q >>= _) = _
      rw [hbranch]
      rfl
    rw [decode, merge, Wire.merge, List.length_cons, Wire.readUntil,
      if_neg (by rw [List.length_cons]; omega), hrecord]
    rfl

/-- Of the bytes of two frames that hold a domain, neither go on behind the others. -/
theorem encode_eq_of_prefix {f g : Frame} (hf : f ≠ none) (h : f.encode <+: g.encode) :
    f.encode = g.encode := by
  rcases f with _ | ⟨d, branch⟩
  · exact absurd rfl hf
  obtain ⟨b, _, hencode⟩ := exists_encode d branch
  rcases g with _ | ⟨d', branch'⟩
  · rw [hencode] at h
    exact absurd (List.prefix_nil.mp h) (List.cons_ne_nil _ _)
  obtain ⟨b', _, hencode'⟩ := exists_encode d' branch'
  rw [hencode, hencode'] at h ⊢
  obtain ⟨rfl, hsized⟩ := List.cons_prefix_cons.mp h
  rw [Wire.writeSized_eq_of_prefix hsized]

end Frame

/-! ### Messages -/

namespace Message

/-- The bytes of a message are read by nothing before they are all there. Without any byte there is
no domain, and what is missing behind the first is a fault of the bytes, whatever type of message is
expected. So the bytes of no message go on behind those of another. -/
theorem decode_of_cut :
    (∀ (m : Message) (p : Bytes), p <+: m.encode → p ≠ m.encode →
      ∃ e, (p = [] → e = .noDomain) ∧
        (p ≠ [] → ∃ cause, (cause = .badVarint ∨ cause = .underflow) ∧
          e = .wire ⟨[(Frame.messageName, Frame.groupName)], cause⟩) ∧
        Envelope.decode p = .error e ∧ decode p = .error (.decode e) ∧
        ∀ t, decodeAs t p = .error (.decode e)) ∧
      ∀ m₁ m₂ : Message, m₁.encode <+: m₂.encode → m₁.encode = m₂.encode := by
  refine ⟨fun m p hp hne => ?_, fun m₁ m₂ h => Frame.encode_eq_of_prefix (Option.some_ne_none _) h⟩
  have hread : ∀ e, Envelope.decode p = .error e → decode p = .error (.decode e) ∧
      ∀ t, decodeAs t p = .error (.decode e) := by
    intro e he
    rw [decode, he]
    refine ⟨rfl, fun t => ?_⟩
    rw [decodeAs, he]
    rfl
  by_cases hnil : p = []
  · subst hnil
    have henvelope : Envelope.decode [] = .error .noDomain := rfl
    exact ⟨.noDomain, fun _ => rfl, fun h => absurd rfl h, henvelope, hread _ henvelope⟩
  · obtain ⟨cause, hcause, hframe⟩ := Frame.decode_eq_error_of_cut hp hne hnil
    have henvelope : Envelope.decode p
        = .error (.wire ⟨[(Frame.messageName, Frame.groupName)], cause⟩) := by
      rw [Envelope.decode, hframe]
      rfl
    exact ⟨_, fun h => absurd h hnil, fun _ => ⟨cause, hcause, rfl⟩, henvelope, hread _ henvelope⟩

/-- A packet to send, of some bytes that are all the same. -/
def packetOfLength (length : Nat) (h : (List.replicate length (0xad : UInt8)).length ≤ 255) :
    Message where
  type := ⟨.phy, (14 : Fin 23)⟩
  body := ⟨((⟨List.replicate length 0xad, h⟩ : Payload 255), ()), rfl⟩

/-- A packet so long that its length is written in two bytes. -/
def longPacket : Message := packetOfLength 200 (by decide +kernel)

/-- The long packet is refused without any byte, with half of its length, and with all but one of
its bytes; and a packet that goes on with one more byte is not written as one. -/
theorem decode_of_cut_longPacket :
    decode [] = .error (.decode .noDomain) ∧
      (∃ cause, decode (longPacket.encode.take 2)
        = .error (.decode (.wire ⟨[("Message", "msg")], cause⟩))) ∧
      (∃ cause, ∀ t, decodeAs t longPacket.encode.dropLast
        = .error (.decode (.wire ⟨[("Message", "msg")], cause⟩))) ∧
      ¬longPacket.encode <+: (packetOfLength 201 (by decide +kernel)).encode := by
  refine ⟨?_, ?_, ?_, fun h => absurd (decode_of_cut.2 _ _ h) (by decide +kernel)⟩
  · obtain ⟨e, hnil, _, _, hdecode, _⟩ :=
      decode_of_cut.1 longPacket [] List.nil_prefix (by decide +kernel)
    rw [hdecode, hnil rfl]
  · obtain ⟨e, _, hcut, _, hdecode, _⟩ :=
      decode_of_cut.1 longPacket _ (List.take_prefix 2 _) (by decide +kernel)
    obtain ⟨cause, _, rfl⟩ := hcut (by decide +kernel)
    exact ⟨cause, hdecode⟩
  · obtain ⟨e, _, hcut, _, _, htyped⟩ :=
      decode_of_cut.1 longPacket _ (List.dropLast_prefix _) (by decide +kernel)
    obtain ⟨cause, _, rfl⟩ := hcut (by decide +kernel)
    exact ⟨cause, htyped⟩

end Message

end RadioFrame
