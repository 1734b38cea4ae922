import RadioFrame.Proofs.Frame.Interleaving

/-!
Lists of numbers, cut in any way.

The numbers of a list stand in records of its tag, a number in a record of its own or any count of
them together, perhaps none, each spelled as it may be (`IsChunk`). However the list is cut and
whatever records of other fields stand in between, the list that is read is what the chunks hold,
one after the other (`NumberList.values_of_gather`). What is written of it is one record, of the
shortest spelling of each number, or none if the list is empty (`NumberList.inSlot_toRecords`): in a
body the records of a field are those of its tags (`Shape.inSlot_toRecords`).
-/

namespace RadioFrame

open Wire (Record Piece IsNumber Consumes Takes Leads ValidTag FieldReaders)

/-! ### Chunks -/

/-- A record of a list of numbers of 32 bits, and the numbers that it holds: the low bits of those
that are spelled. -/
inductive IsChunk (tag : Nat) : Record → List UInt32 → Prop
  /-- A number in a record of its own. -/
  | single {w : Bytes} {n : Nat} (h : IsNumber w n) :
      IsChunk tag ⟨tag, .varint, w⟩ [UInt32.ofNat n]
  /-- Any count of numbers in a record together. -/
  | packed {w : Bytes} {ws : List Bytes} {ns : List Nat} (hw : IsNumber w ws.flatten.length)
      (hws : List.Forall₂ IsNumber ws ns) :
      IsChunk tag ⟨tag, .lengthDelimited, w ++ ws.flatten⟩ (ns.map UInt32.ofNat)

/-- A spelled number is read as one more element. -/
lemma Wire.IsNumber.consumes {w : Bytes} {n : Nat} (h : IsNumber w n) (values : List UInt32) :
    Consumes (Form.readElement .uint32) values w (values ++ [UInt32.ofNat n]) := by
  refine ⟨List.length_pos_iff.mp h.length_pos, fun rest => ?_⟩
  have hvalue : Wire.Scalar.readValue .uint32 (w ++ rest) = .ok (UInt32.ofNat n, rest) :=
    bind_eq_ok.mpr ⟨_, h.read rest, rfl⟩
  exact bind_eq_ok.mpr ⟨_, hvalue, rfl⟩

/-- Spelled numbers are read as elements, one after the other. -/
lemma leads_spelled {ws : List Bytes} {ns : List Nat} (h : List.Forall₂ IsNumber ws ns)
    (values : List UInt32) :
    Leads (Consumes (Form.readElement .uint32)) values ws (values ++ ns.map UInt32.ofNat) := by
  induction h generalizing values with
  | nil =>
      rw [List.map_nil, List.append_nil]
      exact .nil values
  | @cons w n ws ns hw _ ih =>
      have hrest := ih (values ++ [UInt32.ofNat n])
      rw [List.append_assoc, List.singleton_append, ← List.map_cons] at hrest
      exact .cons (hw.consumes values) hrest

namespace IsChunk

variable {tag : Nat} {r : Record} {vs : List UInt32}

/-- A chunk is read behind the numbers that were read before. -/
lemma takes (h : IsChunk tag r vs) (htag : ValidTag tag) (name : String) (budget : Nat)
    (values : List UInt32) :
    Takes (Form.readerAt tag (Form.listReader .uint32 name)) budget values r (values ++ vs) := by
  cases h with
  | @single w n h =>
      refine takes_readerAt (r := ⟨tag, .varint, w⟩) htag fun rest => ?_
      simp only [Form.listReader]
      rw [if_neg (by decide)]
      exact (h.consumes values).2 rest
  | @packed w ws ns hw hws =>
      refine takes_readerAt (r := ⟨tag, .lengthDelimited, w ++ ws.flatten⟩) htag fun rest => ?_
      simp only [Form.listReader]
      rw [if_pos (by decide), List.append_assoc]
      exact Wire.readDelimited_of_spelled hw.read (leads_spelled hws values) rest

/-- The elements of a chunk are the numbers that it holds. -/
lemma elements (h : IsChunk tag r vs) (htag : ValidTag tag) :
    Form.elements .uint32 r = .ok vs := by
  obtain ⟨vs', helements, heq⟩ := Form.elements_of_read (read_of_takes (h.takes htag "" 0 []))
  rw [helements, List.append_cancel_left heq]

end IsChunk

lemma exists_isChunk {tag : Nat} {rs : List Record} {vss : List (List UInt32)}
    (h : List.Forall₂ (IsChunk tag) rs vss) : ∀ r ∈ rs, ∃ vs, IsChunk tag r vs := by
  induction h with
  | nil => exact List.forall_mem_nil _
  | cons hr _ ih => exact List.forall_mem_cons.mpr ⟨⟨_, hr⟩, ih⟩

/-- The elements of chunks are the numbers that each of them holds. -/
lemma tryEach_elements {tag : Nat} (htag : ValidTag tag) {rs : List Record}
    {vss : List (List UInt32)} (h : List.Forall₂ (IsChunk tag) rs vss) :
    tryEach (Form.elements .uint32) rs = .ok vss := by
  induction h with
  | nil => rfl
  | cons hr _ ih =>
      rw [tryEach, hr.elements htag, ih]
      rfl

/-! ### The lists of the catalogue -/

/-- The fields that are lists of numbers. -/
inductive NumberList where
  /-- The levels of a report on the spectrum. -/
  | report
  /-- The capability words of a device. -/
  | capabilities

namespace NumberList

/-- The messages that have the list. -/
def type : NumberList → MessageType
  | report => ⟨.phy, ⟨22, by decide⟩⟩
  | capabilities => ⟨.discovery, ⟨1, by decide⟩⟩

/-- The tag of the list. -/
def tag : NumberList → Nat
  | report => 2
  | capabilities => 10

/-- The place of the list among the fields. -/
def place : (l : NumberList) → Fin l.type.shape.fields.length
  | report => ⟨1, by decide⟩
  | capabilities => ⟨7, by decide⟩

/-- The list in a body. -/
def values : (l : NumberList) → l.type.shape.Raw → List UInt32
  | report, raw => raw.get (place .report)
  | capabilities, raw => raw.get (place .capabilities)

lemma tag_valid (l : NumberList) : ValidTag l.tag := by cases l <;> decide

/-- A chunk of the list is one step of the body. -/
lemma consumes (l : NumberList) {p : Piece} {vs : List UInt32} (h : IsChunk l.tag p.record vs) :
    ∃ s u, Consumes (Wire.mergeRecord l.type.shape.wireName l.type.shape.readers Shape.depth) s
      p.bytes u := by
  have htakes : ∃ v, Takes (l.type.shape.fields.get l.place).readers Shape.depth
      (l.type.shape.blank.get l.place) p.record v := by
    cases l with
    | report => exact ⟨_, h.takes (tag_valid .report) "report" _ _⟩
    | capabilities => exact ⟨_, h.takes (tag_valid .capabilities) "capabilities" _ _⟩
  obtain ⟨v, hv⟩ := htakes
  exact ⟨_, _, (l.type.shape.takes_set l.place hv).consumes_piece l.type.shape.wireName⟩

/-- What is gathered of the list is what its chunks hold. -/
lemma values_of_gather (l : NumberList) {rs : List Record} {vss : List (List UInt32)}
    {raw : l.type.shape.Raw} (h : List.Forall₂ (IsChunk l.tag) (inSlot [l.tag] rs) vss)
    (hraw : l.type.shape.gather rs = .ok raw) : l.values raw = vss.flatten := by
  have helements := tryEach_elements l.tag_valid h
  have hplace := Row.tryOfFn_eq_ok_iff.mp hraw l.place
  cases l with
  | report =>
      obtain ⟨vss', hvss, hok⟩ := bind_eq_ok.mp hplace
      cases helements.symm.trans hvss
      exact (Except.ok.inj hok).symm
  | capabilities =>
      obtain ⟨vss', hvss, hok⟩ := bind_eq_ok.mp hplace
      cases helements.symm.trans hvss
      exact (Except.ok.inj hok).symm

/-- What is written of the list is one record of all its numbers, or none if there are none. -/
lemma inSlot_toRecords (l : NumberList) (raw : l.type.shape.Raw) :
    inSlot [l.tag] (l.type.shape.toRecords raw) =
      if l.values raw = [] then []
      else [.delimited l.tag ((l.values raw).flatMap fun v => Wire.Varint.write v.toNat)] := by
  have hplace := l.type.shape.inSlot_toRecords raw l.place
  cases l with
  | report => exact hplace
  | capabilities => exact hplace

/-- However a list of numbers is cut into chunks, and whatever records of other fields stand in
between, a frame around the records holds that list. It is written again as one record of its
numbers, none of which can be spelled shorter, and as no record if it is empty. -/
theorem decode_chunks (l : NumberList) (values : List UInt32) (vss : List (List UInt32))
    (ps : List Piece) (frame : Bytes) (hcut : vss.flatten = values)
    (hchunks : List.Forall₂ (IsChunk l.tag) (inSlot [l.tag] (ps.map Piece.record)) vss)
    (hothers : ∀ p ∈ ps, p.record.tag ≠ l.tag → l.type.Accepts p)
    (hframe : l.type.Wraps (ps.flatMap Piece.bytes) frame) :
    ∃ raw : l.type.shape.Raw,
      Frame.decode frame = .ok (Branch.wrap ⟨l.type.kind, raw⟩) ∧ l.values raw = values ∧
      (∃ rs : List Record,
        Frame.encode (Branch.wrap ⟨l.type.kind, raw⟩) = l.type.around (rs.flatMap Record.bytes) ∧
        inSlot [l.tag] rs =
          if values = [] then []
          else [.delimited l.tag (values.flatMap fun v => Wire.Varint.write v.toNat)]) ∧
      ∀ v ∈ values, IsNumber (Wire.Varint.write v.toNat) v.toNat ∧
        ∀ w, IsNumber w v.toNat → (Wire.Varint.write v.toNat).length ≤ w.length := by
  have hsteps : ∀ p ∈ ps, ∃ s u, Consumes
      (Wire.mergeRecord l.type.shape.wireName l.type.shape.readers Shape.depth) s p.bytes u := by
    intro p hp
    by_cases htag : p.record.tag = l.tag
    · have hown : p.record ∈ inSlot [l.tag] (ps.map Piece.record) :=
        List.mem_filter.mpr ⟨List.mem_map_of_mem hp, decide_eq_true (List.mem_singleton.mpr htag)⟩
      obtain ⟨vs, hvs⟩ := exists_isChunk hchunks p.record hown
      exact l.consumes hvs
    · exact (hothers p hp htag).consumes
  obtain ⟨raw, hgather, hdecode⟩ := hframe.decode_eq_gather_of_consumes hsteps
  have hvalues : l.values raw = values := (l.values_of_gather hchunks hgather).trans hcut
  refine ⟨raw, hdecode, hvalues, ⟨l.type.shape.toRecords raw, ?_, ?_⟩, fun v _ => ⟨?_, ?_⟩⟩
  · rw [← Shape.write_eq]
    exact l.type.encode_eq_around raw
  · rw [inSlot_toRecords, hvalues]
  · exact Wire.isNumber_write (by have := v.toNat_lt; omega)
  · exact fun w hw => hw.groups.length_write_le

/-! ### A report whose levels are scattered -/

namespace Scattered

/-- A level in a record of its own. Its key and the level itself are longer than they have to be. -/
def lone : Piece where
  record := ⟨2, .varint, [0x81, 0x00]⟩
  head := [0x90, 0x00]
  isKey := Wire.isKey_of_read (by decide)
  isValue := ⟨1, .number (Wire.isNumber_of_read (n := 1) (by decide))⟩

lemma length_silent : ([] : Bytes).length < 2 ^ 64 := by decide

/-- A record of no levels. -/
def silent : Piece := .ofContent 2 [] (tag_valid .report) length_silent

lemma validTag_moment : ValidTag 1 := by decide

/-- The moment of the report. -/
def moment : Piece := .ofContent 1 [0x08, 9] validTag_moment (by decide)

/-- A record of two levels, of which the first is a number of 64 bits. -/
def pair : Piece :=
  .ofContent 2 [0xff, 0xff, 0xff, 0xff, 0xff, 0xff, 0xff, 0xff, 0xff, 0x01, 7] (tag_valid .report)
    (by decide)

/-- All records of the report. -/
def pieces : List Piece := [silent, lone, moment, pair]

lemma isChunk_pieces :
    List.Forall₂ (IsChunk 2) (inSlot [2] (pieces.map Piece.record)) [[], [1], [0xffffffff, 7]] := by
  have hlone : IsNumber [0x81, 0x00] 1 := Wire.isNumber_of_read (by decide)
  have hgreatest : IsNumber [0xff, 0xff, 0xff, 0xff, 0xff, 0xff, 0xff, 0xff, 0xff, 0x01]
      0xffffffffffffffff := Wire.isNumber_of_read (by decide)
  have hseven : IsNumber [7] 7 := Wire.isNumber_of_read (by decide)
  have hnone : IsNumber [0] (List.flatten ([] : List Bytes)).length :=
    Wire.isNumber_of_read (by decide)
  have heleven : IsNumber [11] 11 := Wire.isNumber_of_read (by decide)
  exact .cons (.packed hnone .nil) (.cons (.single hlone)
    (.cons (.packed heleven (.cons hgreatest (.cons hseven .nil))) .nil))

end Scattered

open Scattered in
/-- The levels come in the order of their records, the greatest number as its low 32 bits, and are
written again in one record behind the moment. -/
theorem decode_chunks_scattered :
    (∃ raw, Frame.decode (report.type.around (pieces.flatMap Piece.bytes)) =
        .ok (Branch.wrap ⟨report.type.kind, raw⟩) ∧ report.values raw = [1, 0xffffffff, 7]) ∧
      (Frame.decode (report.type.around (pieces.flatMap Piece.bytes))).map Frame.encode =
        .ok [0x3a, 0x10, 0xba, 0x01, 0x0d, 0x0a, 0x02, 0x08, 0x09, 0x12, 0x07, 0x01, 0xff, 0xff,
          0xff, 0xff, 0x0f, 0x07] := by
  have hothers : ∀ p ∈ pieces, p.record.tag ≠ report.tag → report.type.Accepts p := by
    have hall : ∀ p ∈ pieces, p.record.tag ≠ report.tag →
        (Wire.writeDelimited report.type.kindTag p.bytes).length < 2 ^ 64 ∧
          (Frame.decode (report.type.around p.bytes)).isOk = true := by decide
    exact fun p hp htag => report.type.accepts_of_around (hall p hp htag).1 (hall p hp htag).2
  obtain ⟨raw, hdecode, hvalues, _, _⟩ := decode_chunks report [1, 0xffffffff, 7]
    [[], [1], [0xffffffff, 7]] pieces (report.type.around (pieces.flatMap Piece.bytes)) rfl
    isChunk_pieces hothers (report.type.wraps_around (by decide))
  exact ⟨⟨raw, hdecode, hvalues⟩, by decide⟩

end NumberList

end RadioFrame
