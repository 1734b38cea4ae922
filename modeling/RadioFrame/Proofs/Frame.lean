import Mathlib.Data.List.Basic
import RadioFrame.Proofs.Schema.Reading
import RadioFrame.Proofs.Schema.Steady

/-!
Frames and their bytes, before anything is checked.

* `Frame.decode_of_encode`: a frame is read back from its bytes, whatever it holds: no domain, a
  domain without a kind, numbers that no word has, byte strings of any length.
* `Frame.merge_append`: reading byte strings in a row is reading the second into what the first
  gave. A frame that is read in pieces, each of them whole records, is the frame that is read at
  once; and a fault in a later piece is told as it would be of that piece alone.
-/

namespace RadioFrame.Frame

/-- A frame is read back from its bytes. -/
theorem decode_of_encode (f : Frame) (hlen : f.encode.length < 2 ^ 64) :
    decode f.encode = .ok f :=
  merge_encode f hlen

/-- A connection that no message can ask for: its address has three bytes, the kind of address is no
word's number, and its map of channels is there and has no bytes. -/
def strayConnection : Frame :=
  some ⟨.ble, some ⟨(⟨13, by decide⟩ : Fin 38),
    (([1, 2, 3] : Bytes), (-7 : Int32), (some 0 : Option UInt32), (some [] : Option Bytes),
      (none : Option UInt32), (none : Option UInt32), (none : Option UInt32), ())⟩⟩

/-- The stray connection is read back. -/
theorem decode_of_encode_strayConnection :
    strayConnection.encode.length < 2 ^ 64 ∧ decode strayConnection.encode = .ok strayConnection :=
  ⟨by decide, decode_of_encode strayConnection (by decide)⟩

/-- Of two byte strings in a row, the second is read into the frame that the first gave. -/
theorem merge_append :
    (∀ (f g : Frame) (a b : Bytes), f.merge a = .ok g → f.merge (a ++ b) = g.merge b) ∧
      ∀ (g : Frame) (a b : Bytes), decode a = .ok g → decode (a ++ b) = g.merge b := by
  have hmerge : ∀ (f g : Frame) (a b : Bytes), f.merge a = .ok g → f.merge (a ++ b) = g.merge b :=
    fun _ _ _ b h => Wire.merge_append_of_isSteady isSteady h b
  exact ⟨hmerge, fun g a b h => hmerge none g a b h⟩

/-- A report on the spectrum, of a moment given in whole seconds. -/
def report (usec : UInt32) (levels : List UInt32) : Frame :=
  some ⟨.phy, some ⟨(⟨22, by decide⟩ : Fin 23),
    ((some ((5 : UInt32), usec, ()) : Option (UInt32 × UInt32 × Unit)), levels, ())⟩⟩

/-- The microseconds come behind the seconds and are merged into the same moment, and the third
level behind the first two. A moment that is cut short is a fault of the moment, whatever was read
before. -/
theorem merge_append_report :
    decode [0x3a, 11, 0xba, 1, 8, 0x0a, 2, 8, 5, 0x12, 2, 1, 2] = .ok (report 0 [1, 2]) ∧
      decode ([0x3a, 11, 0xba, 1, 8, 0x0a, 2, 8, 5, 0x12, 2, 1, 2] ++
        [0x3a, 9, 0xba, 1, 6, 0x0a, 2, 0x10, 7, 0x10, 3]) = .ok (report 7 [1, 2, 3]) ∧
      (report 0 [1, 2]).merge ([0x32, 0] ++ [0x3a, 7, 0xba, 1, 4, 0x0a, 2, 0x10, 0x80]) =
        .error ⟨[("Timestamp", "usec"), ("MonitoringReport", "timestamp"), ("Message", "msg"),
          ("Message", "msg")], .badVarint⟩ :=
  ⟨by decide, (merge_append.2 (report 0 [1, 2]) _ _ (by decide)).trans (by decide),
    (merge_append.1 (report 0 [1, 2]) (some ⟨.unifying, none⟩) _ _ (by decide)).trans (by decide)⟩

end RadioFrame.Frame
