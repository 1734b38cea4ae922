import RadioFrame.Inspect.Report
import RadioFrame.Proofs.Inspect.Input
import RadioFrame.Proofs.Message.Spelling

/-!
Decoding the frames that were built, and building those that were decoded.

The digits that are written for a frame spell its bytes when they are typed (`parseHex_encode`). Of
a typed frame the length is looked at before the content (`decodeFrame_of_parseHex`). A frame that
was built from a text, however it was spelled, is decoded as the message of the text, unless it is
longer than the settings allow. The text that is shown of the message, in either layout and as it
stands inside of what is shown, spells it again (`Message.ofText_write`), and so the same frame is
built from it.
-/

namespace RadioFrame

/-- What is written of a message at any depth, in either layout, spells that message. -/
lemma Message.ofText_write (m : Message) (layout : Json.Layout) (depth : Nat) :
    ofText (String.ofList (m.toJson.write layout depth)) = .ok m := by
  refine (yields m.spelled_toJson).run_of_laid ?_
  rw [Json.Document.tokens_ofValue, String.toList_ofList]
  exact Json.Value.laid layout depth m.toJson

namespace Inspect

/-! ### Typed frames -/

/-- Of typed digits the length is looked at first and then the content. -/
lemma decodeFrame_of_parseHex {typed : String} {bytes : Bytes} (h : parseHex typed = .ok bytes)
    (settings : Settings) :
    decodeFrame settings typed =
      if settings.maxFrameLength < bytes.length then
        .error (.tooLong bytes.length settings.maxFrameLength)
      else (Message.decode bytes).mapError (.frame typed) := by
  rw [decodeFrame, h, mapError_ok, ok_bind]

/-! ### What is shown -/

/-- What is shown of a message before its content: its type. -/
def heading (layout : Json.Layout) (t : MessageType) : List Char :=
  '\x7b' :: (layout.lineBreak 1 ++ Json.writeText "type" ++ layout.colon ++ Json.writeText t.name ++
    ',' :: (layout.lineBreak 1 ++ Json.writeText "message" ++ layout.colon))

/-- What is shown of a message is its type and then its content. -/
lemma write_shown (m : Message) (layout : Json.Layout) :
    (shown m).write layout 0 = heading layout m.type ++ m.toJson.write layout 1 ++
      (layout.lineBreak 0 ++ ['\x7d']) := by
  simp only [shown, heading, Json.Value.ofMembers, Json.Members.ofList, Json.Value.write,
    Json.Members.write, List.cons_append, List.append_assoc]

/-! ### There and back -/

/-- A text that a frame is built from spells a message, and the digits are those of its frame. -/
lemma encodeText_eq_ok_iff {text digits : String} :
    encodeText text = .ok digits ↔
      ∃ m, Message.ofText text = .ok m ∧ digits = String.ofList (Hex.encode m.encode) := by
  rw [encodeText, bind_eq_ok]
  constructor
  · rintro ⟨m, hm, heq⟩
    cases heq
    exact ⟨m, mapError_eq_ok.mp hm, rfl⟩
  · rintro ⟨m, hm, rfl⟩
    exact ⟨m, mapError_eq_ok.mpr hm, rfl⟩

/-- A frame that is built from any text is decoded as the message of that text by all settings that
allow its length, which is a length of the machine, and refused for its length by all others; and
from what is shown of the message, alone or below its type, the same frame is built again. Of any
typed frame the digits are looked at first, then the length, then the content. -/
theorem decodeFrame_encodeText :
    (∀ text digits : String, encodeText text = .ok digits →
      ∃ m : Message, Message.ofText text = .ok m ∧ digits.length = 2 * m.encode.length ∧
        (∀ settings : Settings, settings.maxFrameLength < 2 ^ 64 →
          digits.length ≤ 2 * settings.maxFrameLength → decodeFrame settings digits = .ok m) ∧
        (∀ settings : Settings, 2 * settings.maxFrameLength < digits.length →
          decodeFrame settings digits =
            .error (.tooLong m.encode.length settings.maxFrameLength)) ∧
        ∀ layout : Json.Layout,
          encodeText (m.render layout) = .ok digits ∧
          ((shown m).render layout).toList =
            heading layout m.type ++ m.toJson.write layout 1 ++ (layout.lineBreak 0 ++ ['\x7d']) ∧
          encodeText (String.ofList (m.toJson.write layout 1)) = .ok digits) ∧
    ∀ (settings : Settings) (typed : String),
      (∀ fault, parseHex typed = .error fault →
        decodeFrame settings typed = .error (.input fault)) ∧
      ∀ bytes, parseHex typed = .ok bytes →
        (settings.maxFrameLength < bytes.length →
          decodeFrame settings typed =
            .error (.tooLong bytes.length settings.maxFrameLength)) ∧
        (bytes.length ≤ settings.maxFrameLength →
          decodeFrame settings typed = (Message.decode bytes).mapError (.frame typed)) := by
  constructor
  · intro text digits hdigits
    obtain ⟨m, hm, rfl⟩ := encodeText_eq_ok_iff.mp hdigits
    have hlength : (String.ofList (Hex.encode m.encode)).length = 2 * m.encode.length := by
      rw [String.length_ofList, Hex.length_encode]
    have hagain : ∀ layout depth,
        encodeText (String.ofList (m.toJson.write layout depth)) =
          .ok (String.ofList (Hex.encode m.encode)) := fun layout depth =>
      encodeText_eq_ok_iff.mpr ⟨m, m.ofText_write layout depth, rfl⟩
    refine ⟨m, hm, hlength, fun settings hmachine hle => ?_, fun settings hlt => ?_,
      fun layout => ?_⟩
    · rw [hlength] at hle
      have hframe : Frame.decode m.encode = .ok m.toFrame :=
        Frame.merge_encode m.toFrame (by rw [← Message.encode]; omega)
      rw [decodeFrame_of_parseHex (parseHex_encode m.encode), if_neg (by omega),
        Message.decode_of_frame hframe, mapError_ok]
    · rw [hlength] at hlt
      rw [decodeFrame_of_parseHex (parseHex_encode m.encode), if_pos (by omega)]
    · exact ⟨hagain layout 0, by rw [Json.Value.render, String.toList_ofList, write_shown],
        hagain layout 1⟩
  · intro settings typed
    refine ⟨fun fault hfault => ?_, fun bytes hbytes => ⟨fun hlt => ?_, fun hle => ?_⟩⟩
    · rw [decodeFrame, hfault]
      rfl
    · rw [decodeFrame_of_parseHex hbytes, if_pos hlt]
    · rw [decodeFrame_of_parseHex hbytes, if_neg (by omega)]

/-- The command to start in Bluetooth Low Energy, with blanks, an escape, and a list for its fields.
-/
def startText : String := "\x7b \"ble\" : \x7b\"\\u0053tart\": [] \x7d\x7d"

/-- The command to start has five bytes, and so a limit of four refuses it, as it refuses any other
five. A digit without a partner is found before the length is looked at. -/
theorem decodeFrame_encodeText_start :
    encodeText startText = .ok "1a039a0100" ∧
      (∃ m, Message.ofText startText = .ok m ∧ decodeFrame ⟨5, true⟩ "1a039a0100" = .ok m ∧
        decodeFrame ⟨4, true⟩ "1a039a0100" = .error (.tooLong 5 4) ∧
        encodeText (m.render .indented) = .ok "1a039a0100") ∧
      decodeFrame ⟨4, true⟩ "0xff FF\tff ffff" = .error (.tooLong 5 4) ∧
      decodeFrame ⟨4, true⟩ "0xff FF\tff fffff" =
        .error (.input ⟨"0xff FF\tff fffff", .oddLength⟩) := by
  have hstart : encodeText startText = .ok "1a039a0100" := by
    have hsome : (encodeText startText).toOption = some "1a039a0100" := by decide +kernel
    cases hencode : encodeText startText with
    | error e =>
        rw [hencode] at hsome
        cases hsome
    | ok digits =>
        rw [hencode] at hsome
        cases hsome
        rfl
  obtain ⟨m, hm, hlength, hallowed, hrefused, hagain⟩ := decodeFrame_encodeText.1 _ _ hstart
  have hfive : m.encode.length = 5 := by
    have hten : "1a039a0100".length = 10 := by decide
    omega
  have hrefused := hrefused ⟨4, true⟩ (by decide)
  rw [hfive] at hrefused
  have hlong := (decodeFrame_encodeText.2 ⟨4, true⟩ "0xff FF\tff ffff").2
    [0xff, 0xff, 0xff, 0xff, 0xff] (by decide +kernel)
  exact ⟨hstart, ⟨m, hm, hallowed ⟨5, true⟩ (by decide) (by decide), hrefused,
    (hagain .indented).1⟩, hlong.1 (by decide),
    (decodeFrame_encodeText.2 ⟨4, true⟩ "0xff FF\tff fffff").1 ⟨_, .oddLength⟩ (by decide +kernel)⟩

end Inspect

end RadioFrame
