import RadioFrame.Message.Text
import RadioFrame.Proofs.Schema.Text

/-!
Messages and their text, there and back.

`Message.ofText_render`: the text of a message of any type, in either layout, spells that message,
and the message that was read has the same text again. The text is cut into the tokens of what was
written (`Json.scan_render`), and every reader undoes its writer (`Message.reads`). In the
catalogue no two names that are read in one place are the same, which a look at all of them shows.
-/

namespace RadioFrame

open Json.Reader (Reads)

/-! ### The names of the catalogue -/

namespace Domain

lemma exists_place (d : Domain) : ∃ i : Fin all.length, all.get i = d := by
  cases d <;> decide

lemma names_nodup : (all.map name).Nodup := by decide

/-- No two kinds of a domain have one name. -/
lemma kindNames_nodup (d : Domain) : (d.shapes.map (·.name)).Nodup := by cases d <;> decide

/-- In no kind of a domain two things have one name. -/
lemma distinctNames (d : Domain) : ∀ s ∈ d.shapes, s.DistinctNames := by cases d <;> decide

end Domain

/-! ### Messages -/

namespace Message

/-- What is written of a message below its domain is read as that message. -/
lemma reads_readerIn {d : Domain} (k : Kind d) (body : Body (Kind.shape k)) :
    Reads (readerIn d) (.tagged (Kind.name k) body.toJson) ⟨⟨d, k⟩, body⟩ := by
  have hshape : (Kind.shape k).DistinctNames := d.distinctNames _ (List.getElem_mem _)
  exact Json.Reader.reads_tagged d.kindNames_nodup (.inl rfl)
    ((Body.reads (Kind.shape k) hshape body).andThen rfl)

/-- What is written of a message is read as that message. -/
lemma reads (m : Message) : Reads reader m.toJson m := by
  obtain ⟨⟨d, k⟩, body⟩ := m
  obtain ⟨i, rfl⟩ := d.exists_place
  exact Json.Reader.reads_tagged Domain.names_nodup (.inl rfl) (reads_readerIn k body)

/-- The text of a message spells that message, which has the same text again, in the same layout and
in the other. -/
theorem ofText_render (m : Message) (layout again : Json.Layout) :
    ofText (m.render layout) = .ok m ∧
      (ofText (m.render layout)).map (render again) = .ok (m.render again) := by
  have hread : ofText (m.render layout) = .ok m := by
    have htokens := m.reads []
    rw [List.append_nil] at htokens
    rw [ofText, Json.Reader.run, render, Json.scan_render, htokens]
  exact ⟨hread, by rw [hread]; rfl⟩

/-- The greatest frequency is written with all its digits, which no floating point number keeps. -/
example :
    render .compact ⟨⟨.phy, (7 : Fin 23)⟩, ⟨((18446744073709551615 : UInt64), ()), rfl⟩⟩ =
      "\x7b\"phy\":\x7b\"SetFrequency\":\x7b\"frequency\":18446744073709551615\x7d\x7d\x7d" := by
  cbv

end Message

end RadioFrame
