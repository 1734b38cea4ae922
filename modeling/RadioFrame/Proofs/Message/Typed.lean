import RadioFrame.Envelope
import RadioFrame.Proofs.Message.RoundTrip

/-!
Messages of an expected type, and messages of whatever type there is.

A receiver that knows which type it expects takes the fields out of an envelope with `unpackAs`; one
that does not takes out a message with `unpack`. The two look for the fields in ways of their own:
`unpack` goes by what the envelope holds, `unpackAs` by the type that it was given
(`Envelope.rawOf?`). On an envelope of the expected type they come to the same fields and the same
violation (`Envelope.unpackAs_cases`); on any other the type is told before any field is looked at
(`Envelope.unpackAs_of_ne`).

`Message.decodeAs_decode` puts this together for byte strings, and says that a sender need not care
either: fields that are packed under their type, as a message of their domain or as a message of
any domain have the same bytes.
-/

namespace RadioFrame

namespace Envelope

/-- The raw fields of the type that an envelope holds are found. -/
lemma rawOf?_self (d : Domain) (k : Kind d) (raw : (Kind.shape k).Raw) :
    rawOf? ⟨some ⟨d, some ⟨k, raw⟩⟩⟩ ⟨d, k⟩ = some raw := by
  rw [rawOf?]
  exact dif_pos rfl

/-- No raw fields are found of a type that an envelope does not hold. -/
lemma rawOf?_of_ne {e : Envelope} {t u : MessageType} (hu : e.messageType = .ok u) (hne : u ≠ t) :
    e.rawOf? t = none := by
  obtain ⟨frame⟩ := e
  rcases frame with _ | ⟨d, _ | ⟨k, raw⟩⟩
  · cases hu
  · cases hu
  · cases hu
    rw [rawOf?]
    exact dif_neg hne

/-- An envelope of another type is refused, and both types are told. -/
lemma unpackAs_of_ne {e : Envelope} {t u : MessageType} (hu : e.messageType = .ok u)
    (hne : u ≠ t) : e.unpackAs t = .error (.kindMismatch t (some u)) := by
  rw [unpackAs, rawOf?_of_ne hu hne, hu]
  rfl

/-- From an envelope of the expected type the same fields are taken out either way, or the same
violation is reported. -/
lemma unpackAs_cases {e : Envelope} {t : MessageType} (ht : e.messageType = .ok t) :
    (∃ body, e.unpackAs t = .ok body ∧ e.unpack = .ok ⟨t, body⟩) ∨
      ∃ v, e.unpackAs t = .error (.violation v) ∧ e.unpack = .error (.parse (.violation v)) := by
  obtain ⟨frame⟩ := e
  rcases frame with _ | ⟨d, _ | ⟨k, raw⟩⟩
  · cases ht
  · cases ht
  · cases ht
    have htyped : unpackAs ⟨some ⟨d, some ⟨k, raw⟩⟩⟩ ⟨d, k⟩
        = (Body.check (Kind.shape k) raw).mapError .violation := by
      rw [unpackAs, rawOf?_self]
      rfl
    have hdynamic : unpack ⟨some ⟨d, some ⟨k, raw⟩⟩⟩
        = (Body.check (Kind.shape k) raw).mapError (fun v => .parse (.violation v)) >>=
            fun body => .ok ⟨⟨d, k⟩, body⟩ := rfl
    rw [htyped, hdynamic]
    cases hcheck : Body.check (Kind.shape k) raw with
    | ok body => exact .inl ⟨body, rfl, rfl⟩
    | error v => exact .inr ⟨v, rfl, rfl⟩

/-- A message that is taken out has the type of the envelope. -/
lemma messageType_of_unpack {e : Envelope} {m : Message} (h : e.unpack = .ok m) :
    e.messageType = .ok m.type := by
  obtain ⟨frame⟩ := e
  cases unpack_eq_ok_iff.mp h
  rfl

/-- What comes out under an expected type is the message that is there. -/
lemma unpackAs_eq_ok_iff {e : Envelope} {t : MessageType} (hknown : ∃ u, e.messageType = .ok u)
    (body : Body t.shape) : e.unpackAs t = .ok body ↔ e.unpack = .ok ⟨t, body⟩ := by
  obtain ⟨u, hu⟩ := hknown
  by_cases hne : u = t
  · subst hne
    rcases unpackAs_cases hu with ⟨body', htyped, hdynamic⟩ | ⟨v, htyped, hdynamic⟩
    · rw [htyped, hdynamic]
      exact ⟨fun h => by cases h; rfl, fun h => by cases h; rfl⟩
    · rw [htyped, hdynamic]
      exact ⟨fun h => (by cases h), fun h => (by cases h)⟩
  · rw [unpackAs_of_ne hu hne]
    constructor
    · intro h
      cases h
    · intro h
      rw [messageType_of_unpack h] at hu
      exact absurd (Except.ok.inj hu).symm hne

end Envelope

namespace Message

/-- Reading fields of an expected type and reading a message agree. The fields are read just when
they are those of the message; a byte string that is no envelope is refused alike by both; an
envelope of the expected type gives the fields or their violation to both; an envelope of another
type is refused for its type, whatever its fields are. And the bytes of fields are those of the
message that has them, made of them at once or within their domain. -/
theorem decodeAs_decode (t : MessageType) :
    (∀ bytes body, decodeAs t bytes = .ok body ↔ decode bytes = .ok ⟨t, body⟩) ∧
      (∀ bytes e, Envelope.decode bytes = .error e →
        decodeAs t bytes = .error (.decode e) ∧ decode bytes = .error (.decode e)) ∧
      (∀ bytes e, Envelope.decode bytes = .ok e → ∃ u, e.messageType = .ok u ∧
        (u = t →
          (∃ body, decodeAs t bytes = .ok body ∧ decode bytes = .ok ⟨t, body⟩) ∨
            ∃ v, decodeAs t bytes = .error (.parse (.violation v)) ∧
              decode bytes = .error (.parse (.violation v))) ∧
        (u ≠ t → decodeAs t bytes = .error (.parse (.kindMismatch t (some u))))) ∧
      ∀ body : Body t.shape,
        let m : Message := ⟨t, body⟩
        let inDomain : DomainMessage t.domain := ⟨t.kind, body⟩
        inDomain.toMessage = m ∧ m.encode = encodeAs t body ∧
          inDomain.toMessage.encode = encodeAs t body ∧
          (Branch.wrap inDomain.toBranch).encode = encodeAs t body := by
  have herror : ∀ bytes e, Envelope.decode bytes = .error e →
      decodeAs t bytes = .error (.decode e) ∧ decode bytes = .error (.decode e) := by
    intro bytes e he
    rw [decodeAs, decode, he]
    exact ⟨rfl, rfl⟩
  have hok : ∀ bytes e, Envelope.decode bytes = .ok e →
      decodeAs t bytes = (e.unpackAs t).mapError .parse ∧ decode bytes = e.unpack := by
    intro bytes e he
    rw [decodeAs, decode, he]
    exact ⟨rfl, rfl⟩
  refine ⟨fun bytes body => ?_, herror, fun bytes e he => ?_, fun body => ⟨rfl, rfl, rfl, rfl⟩⟩
  · cases he : Envelope.decode bytes with
    | error e =>
        rw [(herror bytes e he).1, (herror bytes e he).2]
        exact ⟨fun h => (by cases h), fun h => (by cases h)⟩
    | ok e =>
        rw [(hok bytes e he).1, (hok bytes e he).2, mapError_eq_ok]
        exact Envelope.unpackAs_eq_ok_iff (Envelope.decode_eq_ok_iff.mp he).2 body
  · obtain ⟨u, hu⟩ := (Envelope.decode_eq_ok_iff.mp he).2
    rw [(hok bytes e he).1, (hok bytes e he).2]
    refine ⟨u, hu, fun heq => ?_, fun hne => ?_⟩
    · subst heq
      rcases Envelope.unpackAs_cases hu with ⟨body, htyped, hdynamic⟩ | ⟨v, htyped, hdynamic⟩
      · exact .inl ⟨body, by rw [htyped, mapError_ok], hdynamic⟩
      · exact .inr ⟨v, by rw [htyped, mapError_error], hdynamic⟩
    · rw [Envelope.unpackAs_of_ne hu hne, mapError_error]

/-- A packet for a connection whose direction is the number of no word. -/
def strayDirection : Envelope :=
  ⟨some ⟨.ble, some ⟨⟨15, by decide⟩, ((9 : Int32), (0 : UInt32), ([] : Bytes), false, ())⟩⟩⟩

/-- The direction is reported to a receiver of packets and to one of any message, but not to a
receiver of the command to start, who is told that there is a packet; and a byte string that is no
frame is refused alike by all. -/
theorem decodeAs_decode_strayDirection :
    (decodeAs ⟨.ble, (15 : Fin 38)⟩ strayDirection.encode
          = .error (.parse (.violation ⟨"direction", .unknownNumber 9⟩)) ∧
        decode strayDirection.encode
          = .error (.parse (.violation ⟨"direction", .unknownNumber 9⟩))) ∧
      decodeAs ⟨.ble, (18 : Fin 38)⟩ strayDirection.encode
        = .error (.parse (.kindMismatch ⟨.ble, (18 : Fin 38)⟩ (some ⟨.ble, (15 : Fin 38)⟩))) ∧
      decodeAs ⟨.ble, (18 : Fin 38)⟩ [0x1a]
        = .error (.decode (.wire ⟨[("Message", "msg")], .badVarint⟩)) := by
  have hdecode : Envelope.decode strayDirection.encode = .ok strayDirection := by decide
  refine ⟨?_, ?_, ?_⟩
  · obtain ⟨_, hu, hsame, _⟩ := (decodeAs_decode ⟨.ble, (15 : Fin 38)⟩).2.2.1 _ _ hdecode
    have hdirection : decode strayDirection.encode
        = .error (.parse (.violation ⟨"direction", .unknownNumber 9⟩)) := by decide
    rcases hsame (Except.ok.inj hu).symm with ⟨_, _, hbody⟩ | ⟨v, htyped, hdynamic⟩
    · rw [hdirection] at hbody
      cases hbody
    · rw [hdirection] at hdynamic
      cases hdynamic
      exact ⟨htyped, hdirection⟩
  · obtain ⟨_, hu, _, hother⟩ := (decodeAs_decode ⟨.ble, (18 : Fin 38)⟩).2.2.1 _ _ hdecode
    cases hu
    exact hother (by decide)
  · exact ((decodeAs_decode ⟨.ble, (18 : Fin 38)⟩).2.1 [0x1a] _ (by decide)).1

end Message

end RadioFrame
