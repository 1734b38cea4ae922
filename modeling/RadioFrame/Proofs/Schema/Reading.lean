import RadioFrame.Proofs.Schema.Overlay
import RadioFrame.Proofs.Schema.Records

/-!
Reading what is written, over whatever is there.

A field takes its own records and puts the value that they stand for over the one that it has
(`Form.leads`). In a row the records of each entry stand together and in order, and those of other
entries may stand before and after (`Interleaved`); the entry does not see them, so the row takes
them all (`leads_row`). From this follow, for any raw values whose bytes are fewer than `2 ^ 64`,

* `Submessage.merge_records`: a submessage is read from its records over another;
* `Shape.leads`: so is a body, whose fields stand in ascending order of tags and not as declared;
* `Frame.leads`: so is a frame, with whatever it holds or does not hold.

Over nothing, what is read is what was written (`Frame.merge_encode`).
-/

namespace RadioFrame

open Wire (Record FieldReaders Takes Leads)

/-! ### Rows of interleaved records -/

section Rows

variable {ι : Type} {V : ι → Type} {records : ∀ i, V i → List Record}

/-- A list of records made of those of the entries of a row: the records of the first entry stand
together, and the records before and after are made of those of the other entries. -/
def Interleaved (records : ∀ i, V i → List Record) : {is : List ι} → Row V is → List Record → Prop
  | [], (), rs => rs = []
  | i :: _, (v, row), rs =>
      ∃ before after,
        rs = before ++ records i v ++ after ∧ Interleaved records row (before ++ after)

/-- Every record belongs to some entry. -/
lemma Interleaved.exists_entry : ∀ {is : List ι} {row : Row V is} {rs : List Record},
    Interleaved records row rs → ∀ r ∈ rs, ∃ i ∈ is, ∃ v, r ∈ records i v
  | [], (), _, h, r, hr => by
      rw [Interleaved] at h
      simp [h] at hr
  | i :: is, (v, row), rs, h, r, hr => by
      obtain ⟨before, after, rfl, hothers⟩ := h
      rcases List.mem_append.mp hr with hr | hr
      · rcases List.mem_append.mp hr with hr | hr
        · obtain ⟨j, hj, w, hw⟩ := hothers.exists_entry r (List.mem_append_left _ hr)
          exact ⟨j, List.mem_cons_of_mem _ hj, w, hw⟩
        · exact ⟨i, List.mem_cons_self, v, hr⟩
      · obtain ⟨j, hj, w, hw⟩ := hothers.exists_entry r (List.mem_append_right _ hr)
        exact ⟨j, List.mem_cons_of_mem _ hj, w, hw⟩

/-- The records of the entries one after the other. -/
lemma interleaved_flatten : ∀ {is : List ι} (row : Row V is),
    Interleaved records row (row.toList records).flatten
  | [], () => rfl
  | i :: _, (v, row) => by
      refine ⟨[], (row.toList records).flatten, ?_, interleaved_flatten row⟩
      rw [Row.toList, List.flatten_cons, List.nil_append]

/-- Fields know the tags of all records that they take. -/
lemma known_of_leads {σ : Type} {fields : FieldReaders σ} {budget : Nat} {s t : σ}
    {rs : List Record} (h : Leads (Takes fields budget) s rs t) :
    ∀ r ∈ rs, (fields r.tag).isSome := by
  induction h with
  | nil _ => simp
  | cons hr _ ih =>
      obtain ⟨_, field, hfield, _⟩ := hr
      intro r hmem
      rcases List.mem_cons.mp hmem with rfl | hmem
      · rw [hfield]
        rfl
      · exact ih r hmem

/-- A list can be taken apart again into its middle and the rest, if a test tells them apart. -/
lemma filter_middle {α : Type} {p : α → Bool} {before middle after : List α}
    (hmiddle : ∀ a ∈ middle, p a = true) (hothers : ∀ a ∈ before ++ after, p a = false) :
    (before ++ middle ++ after).filter p = middle ∧
      (before ++ middle ++ after).filter (fun a => !p a) = before ++ after := by
  have hbefore : ∀ a ∈ before, p a = false := fun a ha =>
    hothers a (List.mem_append_left _ ha)
  have hafter : ∀ a ∈ after, p a = false := fun a ha => hothers a (List.mem_append_right _ ha)
  have hkept : middle.filter (fun a => !p a) = [] :=
    List.filter_eq_nil_iff.mpr fun a ha => by simp [hmiddle a ha]
  constructor
  · rw [List.filter_append, List.filter_append, List.filter_eq_self.mpr hmiddle,
      List.filter_eq_nil_iff.mpr (fun a ha => by simp [hbefore a ha]),
      List.filter_eq_nil_iff.mpr (fun a ha => by simp [hafter a ha]),
      List.nil_append, List.append_nil]
  · rw [List.filter_append, List.filter_append, hkept, List.append_nil, ← List.filter_append,
      List.filter_eq_self.mpr (fun a ha => by simp [hothers a ha])]

/-- Of interleaved records those of a place are told from the others by a test that only they pass.
-/
lemma Interleaved.filter (owns : ι → Record → Bool)
    (hown : ∀ i v, ∀ r ∈ records i v, owns i r = true) :
    ∀ {is : List ι} {row : Row V is} {rs : List Record}, Interleaved records row rs →
      is.Pairwise (fun i j => (∀ v, ∀ r ∈ records j v, owns i r = false) ∧
        ∀ v, ∀ r ∈ records i v, owns j r = false) →
      ∀ k : Fin is.length, rs.filter (owns (is.get k)) = records (is.get k) (row.get k)
  | i :: is, (v, row), rs, h, hapart, ⟨0, _⟩ => by
      obtain ⟨before, after, rfl, hothers⟩ := h
      obtain ⟨hfirst, _⟩ := List.pairwise_cons.mp hapart
      have hforeign : ∀ r ∈ before ++ after, owns i r = false := by
        intro r hr
        obtain ⟨j, hj, w, hw⟩ := hothers.exists_entry r hr
        exact (hfirst j hj).1 w r hw
      exact (filter_middle (hown i v) hforeign).1
  | i :: is, (v, row), rs, h, hapart, ⟨k + 1, hk⟩ => by
      obtain ⟨before, after, rfl, hothers⟩ := h
      obtain ⟨hfirst, hrest⟩ := List.pairwise_cons.mp hapart
      have hlt : k < is.length := Nat.lt_of_succ_lt_succ hk
      have hplace := hothers.filter owns hown hrest ⟨k, hlt⟩
      have hmiddle : (records i v).filter (owns (is.get ⟨k, hlt⟩)) = [] := by
        refine List.filter_eq_nil_iff.mpr fun r hr => ?_
        rw [(hfirst _ (List.get_mem is ⟨k, hlt⟩)).2 v r hr]
        exact Bool.false_ne_true
      change (before ++ records i v ++ after).filter (owns (is.get ⟨k, hlt⟩)) = _
      rw [List.filter_append, List.filter_append, hmiddle, List.append_nil, ← List.filter_append]
      exact hplace

/-- A row takes interleaved records, if each entry takes its own and knows no tag of the records of
the entries after it. -/
theorem leads_row {entry : ∀ i, FieldReaders (V i)} {join : ∀ i, V i → V i → V i} {budget : Nat} :
    ∀ {is : List ι} {start row : Row V is} {rs : List Record},
      Interleaved records row rs → (∀ r ∈ rs, r.value.length < 2 ^ 64) →
      is.Pairwise (fun i j => ∀ v, ∀ r ∈ records j v, entry i r.tag = none) →
      (∀ i ∈ is, ∀ a v, (∀ r ∈ records i v, r.value.length < 2 ^ 64) →
        Leads (Takes (entry i) budget) a (records i v) (join i a v)) →
      Leads (Takes (Wire.rowReader entry is) budget) start rs (Row.zipWith join start row)
  | [], (), (), rs, hrs, _, _, _ => by
      rw [Interleaved] at hrs
      rw [hrs]
      exact .nil _
  | i :: is, (a, start), (v, row), rs, hrs, hlen, hforeign, hown => by
      obtain ⟨before, after, rfl, hothers⟩ := hrs
      obtain ⟨hfirst, hforeign⟩ := List.pairwise_cons.mp hforeign
      have hv := hown i List.mem_cons_self a v fun r hr => hlen r (by simp [hr])
      have hrest : ∀ r ∈ before ++ after, r.value.length < 2 ^ 64 := by
        intro r hr
        rcases List.mem_append.mp hr with hr | hr
        · exact hlen r (List.mem_append_left _ (List.mem_append_left _ hr))
        · exact hlen r (List.mem_append_right _ hr)
      have hrow : Leads (Takes (Wire.rowReader entry is) budget) start (before ++ after)
          (Row.zipWith join start row) :=
        leads_row hothers hrest hforeign fun j hj => hown j (List.mem_cons_of_mem _ hj)
      have hknown := known_of_leads hv
      have hunknown : ∀ r ∈ before ++ after, entry i r.tag = none := by
        intro r hr
        obtain ⟨j, hj, w, hw⟩ := hothers.exists_entry r hr
        exact hfirst j hj w r hw
      -- the filters of `leads_rowReader` give back the two lists that were put together
      have hskipped : ∀ r ∈ before ++ after, (entry i r.tag).isSome = false := by
        intro r hr
        rw [hunknown r hr]
        rfl
      obtain ⟨hmine, htheirs⟩ := filter_middle hknown hskipped
      exact Wire.leads_rowReader (by rw [hmine]; exact hv) (by rw [htheirs]; exact hrow)

end Rows

/-! ### Simple values and lists of them -/

section Values

variable {budget : Nat} (s : Wire.Scalar) (label : String) {tag : Nat}

/-- A reader at one tag takes the records of that tag whose values it reads. -/
lemma takes_readerAt {σ : Type} {reader : Wire.FieldReader σ} {a b : σ} {r : Record}
    (htag : Wire.ValidTag r.tag)
    (h : ∀ rest, reader.read r.wireType budget a (r.value ++ rest) = .ok (b, rest)) :
    Takes (Form.readerAt r.tag reader) budget a r b :=
  ⟨htag, reader, if_pos rfl, h⟩

/-- The record of a simple value, if there is one, has the tag of the field. -/
lemma tag_eq_of_mem_singleRecords {s : Wire.Scalar} {tag : Nat} {v : s.Value} {r : Record}
    (h : r ∈ singleRecords s tag v) : r.tag = tag := by
  rw [singleRecords] at h
  split at h
  · simp at h
  · rw [List.mem_singleton.mp h]
    rfl

lemma leads_single (htag : Wire.ValidTag tag) (a v : s.Value)
    (hlen : ∀ r ∈ singleRecords s tag v, r.value.length < 2 ^ 64) :
    Leads (Takes (Form.readerAt tag (singleReader s label)) budget) a
      (singleRecords s tag v) (s.overlay a v) := by
  by_cases hv : v = s.zero
  · rw [singleRecords, if_pos hv, Wire.Scalar.overlay, if_pos hv]
    exact .nil _
  · rw [singleRecords, if_neg hv] at hlen ⊢
    rw [Wire.Scalar.overlay, if_neg hv]
    refine .single (takes_readerAt (r := s.record tag v) htag fun rest => ?_)
    exact Wire.Scalar.read_write s v (hlen _ List.mem_cons_self) rest

/-- The elements of a list are read one by one behind those read before. -/
lemma leads_elements (vs : List s.Value) (hlen : ∀ v ∈ vs, (s.write v).length < 2 ^ 64)
    (read : List s.Value) :
    Leads (Wire.Consumes (Form.readElement s)) read (vs.map s.write) (read ++ vs) := by
  induction vs generalizing read with
  | nil =>
      rw [List.append_nil]
      exact .nil _
  | cons v vs ih =>
      have hv := hlen v List.mem_cons_self
      have hvs := ih (fun w hw => hlen w (List.mem_cons_of_mem _ hw)) (read ++ [v])
      rw [List.append_assoc, List.singleton_append] at hvs
      refine .cons ⟨s.write_value_ne_nil v, fun rest => ?_⟩ hvs
      rw [Form.readElement, s.readValue_write v hv, ok_bind]

/-- Byte strings have a record each. -/
lemma leads_separate (hs : s.wireType = .lengthDelimited) (htag : Wire.ValidTag tag)
    (vs : List s.Value) (hlen : ∀ v ∈ vs, (s.write v).length < 2 ^ 64) (read : List s.Value) :
    Leads (Takes (Form.readerAt tag (Form.listReader s label)) budget) read
      (vs.map (s.record tag)) (read ++ vs) := by
  induction vs generalizing read with
  | nil =>
      rw [List.append_nil]
      exact .nil _
  | cons v vs ih =>
      have hvs := ih (fun w hw => hlen w (List.mem_cons_of_mem _ hw)) (read ++ [v])
      rw [List.append_assoc, List.singleton_append] at hvs
      refine .cons (takes_readerAt (r := s.record tag v) htag fun rest => ?_) hvs
      change (if _ then _ else _) = _
      rw [if_neg (fun h => h.2 hs)]
      change (Wire.expect s.wireType s.wireType >>= _) = _
      rw [Wire.expect, if_pos rfl, ok_bind, Form.readElement]
      change (s.readValue (s.write v ++ rest) >>= _) = _
      rw [s.readValue_write v (hlen v List.mem_cons_self), ok_bind]

/-- Numbers stand in one record together. -/
lemma takes_packed (hs : s.wireType ≠ .lengthDelimited) (htag : Wire.ValidTag tag)
    (vs : List s.Value) (hlen : (vs.flatMap s.write).length < 2 ^ 64) (read : List s.Value) :
    Takes (Form.readerAt tag (Form.listReader s label)) budget read
      (.delimited tag (vs.flatMap s.write)) (read ++ vs) := by
  have helements : ∀ v ∈ vs, (s.write v).length < 2 ^ 64 := by
    intro v hv
    obtain ⟨before, after, rfl⟩ := List.append_of_mem hv
    simp only [List.flatMap_append, List.flatMap_cons, List.length_append] at hlen
    omega
  refine takes_readerAt (r := .delimited tag (vs.flatMap s.write)) htag fun rest => ?_
  change (if _ then _ else _) = _
  rw [if_pos ⟨rfl, hs⟩, Record.delimited]
  rw [List.flatMap_def] at hlen ⊢
  exact Wire.readDelimited_of_leads (leads_elements s vs helements read) hlen rest

lemma leads_list (htag : Wire.ValidTag tag) (vs : List s.Value)
    (hlen : ∀ r ∈ listRecords s tag vs, r.value.length < 2 ^ 64) (read : List s.Value) :
    Leads (Takes (Form.readerAt tag (Form.listReader s label)) budget) read
      (listRecords s tag vs) (read ++ vs) := by
  rw [listRecords] at hlen ⊢
  split at hlen
  · next hs =>
      rw [if_pos hs]
      exact leads_separate s label hs htag vs
        (fun v hv => hlen (s.record tag v) (List.mem_map_of_mem hv)) read
  · next hs =>
      rw [if_neg hs]
      split at hlen
      · next hvs =>
          rw [if_pos hvs, hvs, List.append_nil]
          exact .nil _
      · next hvs =>
          rw [if_neg hvs]
          have hpacked := hlen _ List.mem_cons_self
          exact .single (takes_packed s label hs htag vs
            (Nat.lt_of_le_of_lt (Wire.length_le_writeSized _) hpacked) read)

end Values

/-! ### Submessages -/

namespace Submessage

variable (s : Submessage) (budget : Nat)

/-- The members of a submessage take its records, wherever its first tag stands. -/
lemma leads_at (own : Nat) (label : Member → String)
    (htags : ∀ m ∈ s.members, Wire.ValidTag (own + m.tag - 1)) (start raw : s.Raw)
    (hlen : ∀ r ∈ s.recordsAt own raw, r.value.length < 2 ^ 64) :
    Leads
      (Takes
        (Wire.rowReader (V := Member.Raw)
          (fun m => Form.readerAt (own + m.tag - 1) (singleReader m.datum.scalar (label m)))
          s.members)
        budget)
      start (s.recordsAt own raw) (s.overlayRaw start raw) := by
  refine leads_row (interleaved_flatten raw) hlen ?_ fun m hm a v hv =>
    leads_single m.datum.scalar (label m) (htags m hm) a v hv
  refine s.tags_ascending.imp_of_mem fun {m n} hm hn hlt v r hr => ?_
  have hpos := (s.tags_valid m hm).1
  have htag := tag_eq_of_mem_singleRecords hr
  exact if_neg (by omega)

lemma length_lt_of_mem {raw : s.Raw} {own : Nat}
    (hlen : ((s.recordsAt own raw).flatMap Record.bytes).length < 2 ^ 64) :
    ∀ r ∈ s.recordsAt own raw, r.value.length < 2 ^ 64 := fun _ hr =>
  Nat.lt_of_le_of_lt (Wire.length_value_le_of_mem hr) hlen

/-- A submessage is read from its records over another, whatever follows. -/
theorem merge_records (start raw : s.Raw)
    (hlen : ((s.toRecords raw).flatMap Record.bytes).length < 2 ^ 64) (rest : Bytes) :
    s.merge .lengthDelimited (budget + 1) start
      (Wire.writeSized ((s.toRecords raw).flatMap Record.bytes) ++ rest)
      = .ok (s.overlayRaw start raw, rest) := by
  have hone : ∀ m : Member, 1 + m.tag - 1 = m.tag := fun m => by omega
  have hreaders : Member.readers = fun m : Member =>
      Form.readerAt (1 + m.tag - 1) (singleReader m.datum.scalar m.name) := by
    funext m
    rw [hone]
    rfl
  have hleads := s.leads_at budget 1 Member.name
    (fun m hm => by rw [hone]; exact s.tags_valid m hm) start raw (s.length_lt_of_mem hlen)
  rw [merge, hreaders]
  exact Wire.mergeDelimited_of_leads s.wireName hleads hlen rest

end Submessage

/-! ### Exclusive messages -/

/-- A group takes a record of one of its fields, whatever is set in it. -/
lemma takes_oneOf {ι : Type} [DecidableEq ι] {V : ι → Type} {label : String}
    {ofTag? : Nat → Option ι} {blank : ∀ i, V i}
    {read : ∀ i, Wire.WireType → Nat → V i → Bytes → Except Wire.Fault (V i × Bytes)}
    {budget : Nat} {r : Record} {current : Option (OneOf V)} {i : ι} {v : V i}
    (htag : Wire.ValidTag r.tag) (hi : ofTag? r.tag = some i)
    (h : ∀ rest, read i r.wireType budget (OneOf.valueAt blank current i) (r.value ++ rest)
      = .ok (v, rest)) :
    Takes (Wire.oneOfReader label ofTag? blank read) budget current r (some ⟨i, v⟩) := by
  refine ⟨htag, _, by rw [Wire.oneOfReader, hi, Option.map_some], fun rest => ?_⟩
  change (read i r.wireType budget (OneOf.valueAt blank current i) (r.value ++ rest) >>= _) = _
  rw [h, ok_bind]

/-! ### Fields -/

/-- A row knows no tag that none of its entries knows. -/
lemma rowReader_eq_none {ι : Type} {V : ι → Type} {entry : ∀ i, FieldReaders (V i)} {tag : Nat} :
    ∀ {is : List ι}, (∀ i ∈ is, entry i tag = none) → Wire.rowReader entry is tag = none
  | [], _ => rfl
  | i :: is, h => by
      have hrest := rowReader_eq_none fun j hj => h j (List.mem_cons_of_mem _ hj)
      rw [Wire.rowReader, h i List.mem_cons_self, hrest]
      rfl

namespace Form

lemma tag_eq_of_mem_listRecords {s : Wire.Scalar} {tag : Nat} {vs : List s.Value} {r : Record}
    (h : r ∈ listRecords s tag vs) : r.tag = tag := by
  rw [listRecords] at h
  split at h
  · obtain ⟨v, _, rfl⟩ := List.mem_map.mp h
    rfl
  · split at h
    · simp at h
    · rw [List.mem_singleton.mp h]
      rfl

/-- Every record of a field has one of the tags of the field. -/
lemma tag_mem_tags (own : Nat) (f : Form) (v : f.Raw) :
    ∀ r ∈ f.toRecords own v, r.tag ∈ f.tags own := by
  intro r hr
  cases f with
  | single d => exact List.mem_singleton.mpr (tag_eq_of_mem_singleRecords hr)
  | list d => exact List.mem_singleton.mpr (tag_eq_of_mem_listRecords hr)
  | optional d | record s | optionalRecord s | records s =>
      obtain ⟨w, _, rfl⟩ := List.mem_map.mp hr
      exact List.mem_singleton.mpr rfl
  | choice as =>
      obtain ⟨c, _, rfl⟩ := List.mem_map.mp hr
      exact List.mem_map.mpr ⟨c.member, List.mem_range.mpr c.member.isLt, rfl⟩
  | inlined s =>
      obtain ⟨m, hm, w, hw⟩ := (interleaved_flatten (V := Member.Raw) v).exists_entry r hr
      exact List.mem_map.mpr ⟨m, hm, (tag_eq_of_mem_singleRecords hw).symm⟩

/-- A field knows its own tags only. -/
lemma readers_eq_none {name : String} {own tag : Nat} (f : Form) (h : tag ∉ f.tags own) :
    f.readers name own tag = none := by
  cases f with
  | single d | optional d | list d | record s | optionalRecord s | records s =>
      exact if_neg fun heq => h (List.mem_singleton.mpr heq)
  | choice as =>
      have hno : alternativeOfTag? as own tag = none := by
        refine dif_neg fun ⟨hle, hlt⟩ => h ?_
        exact List.mem_map.mpr ⟨tag - own, List.mem_range.mpr hlt, by omega⟩
      rw [readers, Wire.oneOfReader, hno]
      rfl
  | inlined s =>
      refine rowReader_eq_none fun m hm => if_neg fun heq => h ?_
      exact List.mem_map.mpr ⟨m, hm, heq.symm⟩

section

variable {budget : Nat} (s : Submessage) (label : String) {own : Nat}

/-- A field that holds a submessage takes its one record. -/
lemma takes_submessage (htag : Wire.ValidTag own) (a : Option s.Raw) (raw : s.Raw)
    (hlen : (Record.delimited own ((s.toRecords raw).flatMap Record.bytes)).value.length < 2 ^ 64) :
    Takes (readerAt own (submessageReader s label)) (budget + 1) a
      (.delimited own ((s.toRecords raw).flatMap Record.bytes)) (overlayRecord s a (some raw)) := by
  refine takes_readerAt (r := .delimited own _) htag fun rest => ?_
  have hread := s.merge_records budget (a.getD s.blank) raw
    (Nat.lt_of_le_of_lt (Wire.length_le_writeSized _) hlen) rest
  change (s.merge .lengthDelimited (budget + 1) (a.getD s.blank)
    (Wire.writeSized ((s.toRecords raw).flatMap Record.bytes) ++ rest) >>= _) = _
  rw [hread, ok_bind, overlayRecord]

lemma leads_submessage (htag : Wire.ValidTag own) (a v : Option s.Raw)
    (hlen : ∀ r ∈ (record s).toRecords own v, r.value.length < 2 ^ 64) :
    Leads (Takes (readerAt own (submessageReader s label)) (budget + 1)) a
      ((record s).toRecords own v) (overlayRecord s a v) := by
  cases v with
  | none => exact .nil _
  | some raw => exact .single (takes_submessage s label htag a raw (hlen _ List.mem_cons_self))

/-- The submessages of a list are read one by one behind those read before. -/
lemma leads_submessages (htag : Wire.ValidTag own) (vs : List s.Raw)
    (hlen : ∀ r ∈ (records s).toRecords own vs, r.value.length < 2 ^ 64) (read : List s.Raw) :
    Leads (Takes (readerAt own (submessagesReader s label)) (budget + 1)) read
      ((records s).toRecords own vs) (read ++ vs) := by
  induction vs generalizing read with
  | nil =>
      rw [List.append_nil]
      exact .nil _
  | cons raw vs ih =>
      have hvs := ih (fun r hr => hlen r (List.mem_cons_of_mem _ hr)) (read ++ [raw])
      rw [List.append_assoc, List.singleton_append] at hvs
      refine .cons (takes_readerAt (r := .delimited own _) htag fun rest => ?_) hvs
      have hread := s.merge_records budget s.blank raw
        (Nat.lt_of_le_of_lt (Wire.length_le_writeSized _) (hlen _ List.mem_cons_self)) rest
      change (s.merge .lengthDelimited (budget + 1) s.blank
        (Wire.writeSized ((s.toRecords raw).flatMap Record.bytes) ++ rest) >>= _) = _
      rw [hread, ok_bind, s.overlayRaw_blank]

end

/-- A field takes its own records and puts the value that they stand for over the one it has. -/
theorem leads {budget : Nat} (name : String) {own : Nat} (f : Form)
    (htags : ∀ tag ∈ f.tags own, Wire.ValidTag tag) (a v : f.Raw)
    (hlen : ∀ r ∈ f.toRecords own v, r.value.length < 2 ^ 64) :
    Leads (Takes (f.readers name own) (budget + 1)) a (f.toRecords own v) (f.overlayRaw a v) := by
  cases f with
  | single d => exact leads_single d.scalar name (htags own (List.mem_singleton.mpr rfl)) a v hlen
  | optional d =>
      have htag := htags own (List.mem_singleton.mpr rfl)
      cases (v : Option d.Raw) with
      | none => exact .nil _
      | some v =>
          refine .single (takes_readerAt (r := d.scalar.record own v) htag fun rest => ?_)
          have hread := d.scalar.read_write v (hlen (d.scalar.record own v) List.mem_cons_self) rest
          change (d.scalar.read d.scalar.wireType (d.scalar.write v ++ rest) >>= _) = _
          rw [hread]
          rfl
  | list d => exact leads_list d.scalar name (htags own (List.mem_singleton.mpr rfl)) v hlen a
  | record s | optionalRecord s =>
      exact leads_submessage s name (htags own (List.mem_singleton.mpr rfl)) a v hlen
  | records s => exact leads_submessages s name (htags own (List.mem_singleton.mpr rfl)) v hlen a
  | choice as =>
      cases (v : Option (OneOf fun i : Fin as.length => (as.get i).submessage.Raw)) with
      | none => exact .nil _
      | some c =>
          obtain ⟨i, raw⟩ := c
          have htag : Wire.ValidTag (own + i) :=
            htags _ (List.mem_map.mpr ⟨i, List.mem_range.mpr i.isLt, rfl⟩)
          have hi : alternativeOfTag? as own (own + i) = some i := by
            have hlt : own ≤ own + i ∧ own + i - own < as.length := ⟨by omega, by omega⟩
            rw [alternativeOfTag?, dif_pos hlt]
            simp
          have hone := hlen (.delimited (own + i)
            (((as.get i).submessage.toRecords raw).flatMap Record.bytes)) List.mem_cons_self
          exact .single (takes_oneOf (r := .delimited (own + i) _) htag hi fun rest =>
            (as.get i).submessage.merge_records budget _ raw
              (Nat.lt_of_le_of_lt (Wire.length_le_writeSized _) hone) rest)
  | inlined s =>
      exact s.leads_at (budget + 1) own (fun m => s!"{name}_{m.name}")
        (fun m hm => htags _ (List.mem_map.mpr ⟨m, hm, rfl⟩)) a v hlen

end Form

/-! ### Bodies -/

/-- In a body the records of each field stand together. -/
lemma interleaved_rowRecords : ∀ {fields : List Field} (raw : Row Field.Raw fields),
    Interleaved Field.toRecords raw (rowRecords raw)
  | [], () => rfl
  | f :: _, (v, raw) => by
      have hraw := interleaved_rowRecords raw
      rw [rowRecords] at hraw
      obtain ⟨before, after, hrest, hall, _⟩ := exists_insertByTag (f.tag, f.toRecords v)
        (pairwise_sortByTag (raw.toList fun f v => (f.tag, f.toRecords v)))
      rw [hrest, List.flatMap_append] at hraw
      refine ⟨before.flatMap (·.2), after.flatMap (·.2), ?_, hraw⟩
      change (insertByTag (f.tag, f.toRecords v)
        (sortByTag (raw.toList fun f v => (f.tag, f.toRecords v)))).flatMap (·.2) = _
      rw [hall, List.flatMap_append, List.flatMap_cons, List.append_assoc]

/-- A body is read from its records over another, whatever the order in which its fields are
declared. -/
theorem Shape.leads (s : Shape) (budget : Nat) (start raw : s.Raw)
    (hlen : ∀ r ∈ s.toRecords raw, r.value.length < 2 ^ 64) :
    Leads (Takes s.readers (budget + 1)) start (s.toRecords raw) (s.overlayRaw start raw) := by
  refine leads_row (interleaved_rowRecords raw) hlen ?_ fun f hf a v hv =>
    f.form.leads f.name (s.tags_valid f hf) a v hv
  refine s.tags_apart.imp fun {f g} hapart v r hr => ?_
  have hmem : r.tag ∈ g.tags := g.form.tag_mem_tags g.tag v r hr
  refine f.form.readers_eq_none fun hown => ?_
  rcases hapart with ⟨_, hbefore⟩ | ⟨_, hbefore⟩
  · exact Nat.lt_irrefl _ (hbefore _ hown _ hmem)
  · exact Nat.lt_irrefl _ (hbefore _ hmem _ hown)

/-! ### Frames -/

namespace Frame

lemma validTag_domain (d : Domain) : Wire.ValidTag d.wireTag := by
  cases d <;> decide

lemma validTag_kind {d : Domain} (k : Kind d) : Wire.ValidTag k.wireTag := by
  have hlt := k.isLt
  have hshapes : d.shapes.length ≤ 38 := by cases d <;> decide
  refine ⟨Nat.succ_pos _, ?_⟩
  rw [Kind.wireTag]
  omega

/-- The message of a domain takes the record of a kind, whatever it holds. -/
lemma leads_branch (budget : Nat) {d : Domain} (current branch : Option (Branch d))
    (hlen : ((branchRecords branch).flatMap Record.bytes).length < 2 ^ 64) :
    Leads (Takes (branchReaders d) (budget + 2)) current (branchRecords branch)
      (overlayBranch d current branch) := by
  cases branch with
  | none => exact .nil _
  | some b =>
      obtain ⟨k, raw⟩ := b
      have hrecord : .delimited k.wireTag (((Kind.shape k).toRecords raw).flatMap Record.bytes)
          ∈ branchRecords (some ⟨k, raw⟩) := List.mem_cons_self
      have hbody : (((Kind.shape k).toRecords raw).flatMap Record.bytes).length < 2 ^ 64 :=
        Nat.lt_of_le_of_lt (Wire.length_content_le_of_mem hrecord) hlen
      have hleads := fun start => (Kind.shape k).leads budget start raw fun r hr =>
        Nat.lt_of_le_of_lt (Wire.length_value_le_of_mem hr) hbody
      exact .single (takes_oneOf (r := .delimited k.wireTag _) (validTag_kind k)
        k.ofWireTag?_wireTag fun rest =>
          Wire.mergeDelimited_of_leads (Kind.shape k).wireName (hleads _) hbody rest)

/-- A frame is read from its record over another, whatever the two hold. -/
theorem leads (f g : Frame) (hlen : g.encode.length < 2 ^ 64) :
    Leads (Takes readers Wire.maxDepth) f g.toRecords (f.overlay g) := by
  rw [encode_eq] at hlen
  cases g with
  | none => exact .nil _
  | some o =>
      obtain ⟨d, branch⟩ := o
      have hrecord : .delimited d.wireTag ((branchRecords branch).flatMap Record.bytes)
          ∈ toRecords (some ⟨d, branch⟩) := List.mem_cons_self
      have hbody : ((branchRecords branch).flatMap Record.bytes).length < 2 ^ 64 :=
        Nat.lt_of_le_of_lt (Wire.length_content_le_of_mem hrecord) hlen
      exact .single (takes_oneOf (r := .delimited d.wireTag _) (validTag_domain d)
        d.ofWireTag?_wireTag fun rest =>
          Wire.mergeDelimited_of_leads messageName (leads_branch 97 _ branch hbody) hbody rest)

/-- The bytes of a frame are merged into another, which puts it over that one. -/
theorem merge_encode_overlay (f g : Frame) (hlen : g.encode.length < 2 ^ 64) :
    f.merge g.encode = .ok (f.overlay g) := by
  rw [encode_eq]
  exact Wire.merge_of_leads messageName (leads f g hlen)

/-- The bytes of a frame are merged into nothing, which gives that frame. -/
lemma merge_encode (f : Frame) (hlen : f.encode.length < 2 ^ 64) :
    Frame.merge none f.encode = .ok f := by
  rw [merge_encode_overlay none f hlen, overlay_none]

end Frame

end RadioFrame
