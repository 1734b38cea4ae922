import RadioFrame.Message
import RadioFrame.Proofs.Json.Laying
import RadioFrame.Proofs.Message.RoundTrip
import RadioFrame.Proofs.Message.Text
import RadioFrame.Proofs.Schema.Spelling

/-!
The spellings of a message.

A document spells a message (`Message.Spelled`) if, below the names of the domain and the kind, it
spells the fields; a text spells it if it is laid out from the tokens of such a document. Every text
of a message is read as that message and has the same bytes, and the text that is written is one of
them (`Message.ofText_of_spelled`).
-/

namespace RadioFrame

open Json (Document Laid)
open Json.Reader (Yields)

namespace Message

/-- The documents that spell a message. -/
def Spelled (m : Message) (d : Document) : Prop :=
  ∃ inner, d = .tagged m.type.domain.name (.tagged m.type.kindName inner) ∧ m.body.Spelled inner

/-- Every spelling of a message is read as that message. -/
lemma yields {m : Message} {d : Document} (h : m.Spelled d) : Yields reader d m := by
  obtain ⟨inner, rfl, hinner⟩ := h
  obtain ⟨⟨domain, k⟩, body⟩ := m
  have hshape : (Kind.shape k).DistinctNames := domain.distinctNames _ (List.getElem_mem _)
  have hkind : Yields (readerIn domain) (.tagged (Kind.name k) inner) ⟨⟨domain, k⟩, body⟩ :=
    Json.Reader.yields_tagged domain.kindNames_nodup (.inl rfl)
      ((Body.yields (Kind.shape k) hshape hinner).andThen rfl)
  obtain ⟨i, rfl⟩ := domain.exists_place
  exact Json.Reader.yields_tagged Domain.names_nodup (.inl rfl) hkind

/-- What is written of a message is one of its spellings. -/
lemma spelled_toJson (m : Message) : m.Spelled (.ofValue m.toJson) :=
  ⟨.ofValue m.body.toJson, rfl, m.body.spelled_toJson (m.type.domain.distinctNames _
    (List.getElem_mem _))⟩

/-- However a message is spelled, and however the document is laid out, it is read as that message,
and has the same bytes. What is written of a message in either layout is such a text. -/
theorem ofText_of_spelled (m : Message) :
    (∀ (d : Document) (s : String), m.Spelled d → Laid d.tokens s.toList →
      ofText s = .ok m ∧ (ofText s).map encode = .ok m.encode) ∧
      ∀ layout, m.Spelled (.ofValue m.toJson) ∧
        Laid (Document.ofValue m.toJson).tokens (m.render layout).toList := by
  constructor
  · intro d s hd hs
    have hread : ofText s = .ok m := (yields hd).run_of_laid hs
    exact ⟨hread, by rw [hread]; rfl⟩
  · intro layout
    refine ⟨m.spelled_toJson, ?_⟩
    rw [Document.tokens_ofValue]
    exact Json.laid_render layout m.toJson

/-- The prepared sequence, spelled as nobody would write it. -/
def respelledSequence : Json.Value :=
  .tagged "ble" (.tagged "PrepareSequence" (.ofMembers
    [("sequence", .ofElements [.text "DeAd", .text ""]),
      ("note", .ofElements [.number 1, .tagged "id" .null]),
      ("trigger", .tagged "reception" (.ofElements [.text "0102", .text "FFfe", .number 300])),
      ("id", .number 7),
      ("direction", .tagged "master_to_slave" .null)]))

lemma spelled_respelledSequence : preparedSequence.Spelled (.ofValue respelledSequence) := by
  have hpattern : Payload.Spelled (⟨[1, 2], by decide⟩ : Payload 20) (.text (some "0102")) :=
    ⟨_, Hex.forall₂_encodeByte _, rfl⟩
  have hmask : Payload.Spelled (⟨[255, 254], by decide⟩ : Payload 20) (.text (some "FFfe")) :=
    ⟨[['F', 'F'], ['f', 'e']], .cons ⟨_, _, rfl, .inr rfl, .inr rfl⟩
      (.cons ⟨_, _, rfl, .inl rfl, .inl rfl⟩ .nil), rfl⟩
  have hfirst : Payload.Spelled (⟨[0xde, 0xad], by decide⟩ : Payload 255) (.text (some "DeAd")) :=
    ⟨[['D', 'e'], ['A', 'd']], .cons ⟨_, _, rfl, .inr rfl, .inl rfl⟩
      (.cons ⟨_, _, rfl, .inr rfl, .inl rfl⟩ .nil), rfl⟩
  have hsecond : Payload.Spelled (⟨[], by decide⟩ : Payload 255) (.text (some "")) :=
    ⟨[], .nil, rfl⟩
  refine ⟨_, rfl, .inl ⟨_, Document.ofValue_ofMembers _, ?_⟩⟩
  exact ⟨.inl ⟨_, rfl, rfl⟩, .inl ⟨_, rfl, .inr rfl⟩,
    .inl ⟨_, rfl, _, rfl, .inr ⟨_, rfl, hpattern, hmask, rfl, rfl⟩⟩,
    .inl ⟨_, rfl, _, rfl, .cons hfirst (.cons hsecond .nil)⟩, trivial⟩

/-- It is read back all the same. -/
theorem ofText_of_spelled_preparedSequence :
    preparedSequence.Spelled (.ofValue respelledSequence) ∧
      Laid (Document.ofValue respelledSequence).tokens (respelledSequence.render .indented).toList ∧
        ofText (respelledSequence.render .indented) = .ok preparedSequence ∧
          (ofText (respelledSequence.render .indented)).map encode =
            .ok preparedSequence.encode := by
  have hlaid : Laid (Document.ofValue respelledSequence).tokens
      (respelledSequence.render .indented).toList := by
    rw [Document.tokens_ofValue]
    exact Json.laid_render .indented respelledSequence
  exact ⟨spelled_respelledSequence, hlaid,
    (ofText_of_spelled preparedSequence).1 _ _ spelled_respelledSequence hlaid⟩

end Message

end RadioFrame
