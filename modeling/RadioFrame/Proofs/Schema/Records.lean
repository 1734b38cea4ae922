import RadioFrame.Frame
import RadioFrame.Proofs.Row
import RadioFrame.Proofs.Wire.Record

/-!
What is written, as records.

The writers of the library give bytes. Here the same content is given as a list of records, form by
form: `Form.toRecords`, `Shape.toRecords`, `Frame.toRecords`. The bytes written are the bytes of the
records in order: `Form.write_eq`, `Shape.write_eq`, `Frame.encode_eq`.
-/

namespace RadioFrame

open Wire (Record)

/-! ### The records of fields -/

/-- The record of a simple value. -/
def Wire.Scalar.record (s : Wire.Scalar) (tag : Nat) (v : s.Value) : Record :=
  ⟨tag, s.wireType, s.write v⟩

/-- The records of a simple value that is not written when it is zero. -/
def singleRecords (s : Wire.Scalar) (tag : Nat) (v : s.Value) : List Record :=
  if v = s.zero then [] else [s.record tag v]

/-- The records of a list of simple values. -/
def listRecords (s : Wire.Scalar) (tag : Nat) (vs : List s.Value) : List Record :=
  if s.wireType = .lengthDelimited then vs.map (s.record tag)
  else if vs = [] then []
  else [.delimited tag (vs.flatMap s.write)]

namespace Submessage

/-- The records of a submessage whose member of tag 1 stands at the tag `own`. -/
def recordsAt (s : Submessage) (own : Nat) (raw : s.Raw) : List Record :=
  (raw.toList fun m v => singleRecords m.datum.scalar (own + m.tag - 1) v).flatten

/-- The records of a submessage. -/
def toRecords (s : Submessage) (raw : s.Raw) : List Record := s.recordsAt 1 raw

end Submessage

namespace Form

/-- The records of a field of a given tag. -/
def toRecords (own : Nat) : (f : Form) → f.Raw → List Record
  | single d, v => singleRecords d.scalar own v
  | optional d, v => (Option.toList (α := d.Raw) v).map (d.scalar.record own)
  | list d, vs => listRecords d.scalar own vs
  | record s, v | optionalRecord s, v =>
      (Option.toList (α := s.Raw) v).map fun raw =>
        .delimited own ((s.toRecords raw).flatMap Record.bytes)
  | records s, vs =>
      List.map (fun raw => .delimited own ((s.toRecords raw).flatMap Record.bytes)) vs
  | choice as, v =>
      (Option.toList (α := OneOf fun i : Fin as.length => (as.get i).submessage.Raw) v).map fun c =>
        .delimited (own + c.member)
          (((as.get c.member).submessage.toRecords c.value).flatMap Record.bytes)
  | inlined s, v => s.recordsAt own v

end Form

/-- The records of a field. -/
def Field.toRecords (f : Field) (v : f.Raw) : List Record := f.form.toRecords f.tag v

/-- The records of the fields of a body, field by field in ascending order of tags. -/
def rowRecords {fields : List Field} (raw : Row Field.Raw fields) : List Record :=
  (sortByTag (raw.toList fun f v => (f.tag, f.toRecords v))).flatMap (·.2)

/-- The records of a body. -/
def Shape.toRecords (s : Shape) (raw : s.Raw) : List Record := rowRecords raw

namespace Frame

/-- The record of the content of a domain's message. -/
def branchRecords {d : Domain} (branch : Option (Branch d)) : List Record :=
  branch.toList.map fun b =>
    .delimited (Kind.wireTag b.member)
      (((Kind.shape b.member).toRecords b.value).flatMap Record.bytes)

/-- The record of a frame. -/
def toRecords (f : Frame) : List Record :=
  f.toList.map fun o => .delimited o.member.wireTag ((branchRecords o.value).flatMap Record.bytes)

end Frame

/-! ### Their bytes -/

section Bytes

variable {ι : Type} {V : ι → Type} {α β : Type}

/-- The bytes of the records of a row are the bytes of its entries, if that is so for each. -/
lemma Row.flatten_toList (bytes : ∀ i, V i → Bytes) (records : ∀ i, V i → List Record)
    (h : ∀ i v, bytes i v = (records i v).flatMap Record.bytes) {is : List ι} (row : Row V is) :
    (row.toList bytes).flatten = (row.toList records).flatten.flatMap Record.bytes := by
  have hbytes : bytes = fun i v => ((records i v).map Record.bytes).flatten := by
    funext i v
    rw [h, List.flatMap_def]
  rw [List.flatMap_def, List.map_flatten, List.flatten_flatten, Row.map_toList, Row.map_toList,
    hbytes]

lemma writeSingle_eq (s : Wire.Scalar) (tag : Nat) (v : s.Value) :
    writeSingle s tag v = (singleRecords s tag v).flatMap Record.bytes := by
  rw [writeSingle, singleRecords]
  split
  · rfl
  · simp [Wire.Scalar.record, Record.bytes]

lemma writeList_eq (s : Wire.Scalar) (tag : Nat) (vs : List s.Value) :
    Form.writeList s tag vs = (listRecords s tag vs).flatMap Record.bytes := by
  rw [Form.writeList, listRecords]
  split
  · rw [List.flatMap_map]
    rfl
  · split
    · rfl
    · simp [Record.bytes_delimited]

lemma Submessage.write_eq (s : Submessage) (raw : s.Raw) :
    s.write raw = (s.toRecords raw).flatMap Record.bytes := by
  have hone : ∀ m : Member, 1 + m.tag - 1 = m.tag := fun m => by omega
  rw [Submessage.write, Submessage.toRecords, Submessage.recordsAt]
  refine Row.flatten_toList _ _ (fun m v => ?_) raw
  rw [hone, writeSingle_eq]

lemma Form.write_eq (own : Nat) (f : Form) (v : f.Raw) :
    f.write own v = (f.toRecords own v).flatMap Record.bytes := by
  cases f with
  | single d => exact writeSingle_eq d.scalar own v
  | optional d =>
      cases (v : Option d.Raw) with
      | none => rfl
      | some v => simp [write, toRecords, Wire.Scalar.record, Record.bytes]
  | list d => exact writeList_eq d.scalar own v
  | record s | optionalRecord s =>
      cases (v : Option s.Raw) with
      | none => rfl
      | some v => simp [write, toRecords, Record.bytes_delimited, Submessage.write_eq]
  | records s =>
      have hlist : ∀ vs : List s.Raw, vs.flatMap (fun v => Wire.writeDelimited own (s.write v))
          = (vs.map fun raw => Record.delimited own
              ((s.toRecords raw).flatMap Record.bytes)).flatMap Record.bytes := by
        intro vs
        simp only [List.flatMap_map, Record.bytes_delimited, Submessage.write_eq]
      exact hlist v
  | choice as =>
      cases (v : Option (OneOf fun i : Fin as.length => (as.get i).submessage.Raw)) with
      | none => rfl
      | some c =>
          obtain ⟨i, v⟩ := c
          simp [write, toRecords, Record.bytes_delimited, Submessage.write_eq]
  | inlined s => exact Row.flatten_toList _ _ (fun m v => writeSingle_eq _ _ v) v

/-! ### The order of pieces -/

/-- A piece is put after those of lower tags and before all others. -/
lemma exists_insertByTag (piece : Nat × α) {pieces : List (Nat × α)}
    (h : pieces.Pairwise (·.1 ≤ ·.1)) :
    ∃ before after, pieces = before ++ after ∧
      insertByTag piece pieces = before ++ piece :: after ∧
      (∀ p ∈ before, p.1 < piece.1) ∧ ∀ p ∈ after, piece.1 ≤ p.1 := by
  induction pieces with
  | nil => exact ⟨[], [], rfl, rfl, by simp, by simp⟩
  | cons p ps ih =>
      obtain ⟨hp, hps⟩ := List.pairwise_cons.mp h
      by_cases hle : piece.1 ≤ p.1
      · refine ⟨[], p :: ps, rfl, if_pos hle, by simp, fun q hq => ?_⟩
        rcases List.mem_cons.mp hq with rfl | hq
        · exact hle
        · exact Nat.le_trans hle (hp q hq)
      · obtain ⟨before, after, hsplit, hinsert, hbefore, hafter⟩ := ih hps
        refine ⟨p :: before, after, by rw [hsplit, List.cons_append], ?_, fun q hq => ?_, hafter⟩
        · rw [insertByTag, if_neg hle, hinsert, List.cons_append]
        · rcases List.mem_cons.mp hq with rfl | hq
          · omega
          · exact hbefore q hq

/-- Sorted pieces ascend. -/
lemma pairwise_sortByTag (pieces : List (Nat × α)) :
    (sortByTag pieces).Pairwise (·.1 ≤ ·.1) := by
  induction pieces with
  | nil => exact .nil
  | cons p ps ih =>
      obtain ⟨before, after, hsplit, hinsert, hbefore, hafter⟩ := exists_insertByTag p ih
      change (insertByTag p (sortByTag ps)).Pairwise _
      rw [hsplit, List.pairwise_append] at ih
      obtain ⟨hb, ha, hacross⟩ := ih
      rw [hinsert, List.pairwise_append]
      refine ⟨hb, List.pairwise_cons.mpr ⟨hafter, ha⟩, fun q hq r hr => ?_⟩
      rcases List.mem_cons.mp hr with rfl | hr
      · exact Nat.le_of_lt (hbefore q hq)
      · exact hacross q hq r hr

/-- Sorting by tags looks at the tags only. -/
lemma sortByTag_map (g : α → β) (pieces : List (Nat × α)) :
    sortByTag (pieces.map (Prod.map id g)) = (sortByTag pieces).map (Prod.map id g) := by
  have hinsert : ∀ (p : Nat × α) (ps : List (Nat × α)),
      insertByTag (Prod.map id g p) (ps.map (Prod.map id g))
        = (insertByTag p ps).map (Prod.map id g) := by
    intro p ps
    induction ps with
    | nil => rfl
    | cons q ps ih =>
        simp only [insertByTag, List.map_cons, Prod.map_fst, id_eq]
        split
        · rfl
        · rw [ih, List.map_cons]
  induction pieces with
  | nil => rfl
  | cons p ps ih =>
      simp only [sortByTag, List.map_cons, List.foldr_cons] at ih ⊢
      rw [ih, hinsert]

lemma Shape.write_eq (s : Shape) (raw : s.Raw) :
    s.write raw = (s.toRecords raw).flatMap Record.bytes := by
  have hpieces : (raw.toList fun f v => (f.tag, f.write v))
      = (raw.toList fun f v => (f.tag, f.toRecords v)).map
          (Prod.map id (List.flatMap Record.bytes)) := by
    rw [Row.map_toList]
    simp only [Prod.map_apply, id_eq, Field.toRecords, Field.write, Form.write_eq]
  rw [Shape.write, writeRow, Shape.toRecords, rowRecords, hpieces, sortByTag_map,
    List.flatMap_map, List.flatMap_assoc]
  rfl

/-- The bytes of a frame are the bytes of its one record. -/
theorem Frame.encode_eq (f : Frame) : f.encode = f.toRecords.flatMap Record.bytes := by
  have hbranch : ∀ {d : Domain} (branch : Option (Branch d)),
      encodeBranch branch = (branchRecords branch).flatMap Record.bytes := by
    intro d branch
    cases branch with
    | none => rfl
    | some b => simp [encodeBranch, branchRecords, Record.bytes_delimited, Shape.write_eq]
  cases f with
  | none => rfl
  | some o => simp [encode, toRecords, Record.bytes_delimited, hbranch]

end Bytes

end RadioFrame
