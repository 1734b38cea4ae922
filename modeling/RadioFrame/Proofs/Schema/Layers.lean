import RadioFrame.Proofs.Schema.Reading
import RadioFrame.Proofs.Schema.Steady
import RadioFrame.Proofs.Wire.Nesting

/-!
The messages of the schema, and which of them stands in which.

A frame holds the messages of domains, such a message the bodies of its kinds, and a body may hold
submessages: these are the layers (`Layer`). `Layer.tags` are the tags that a layer knows and
`Layer.within?` is the layer behind a tag, if a message stands there. The readers of a layer are
described by them, whatever its fields are:

* `Layer.readers_eq_none`: no other tag has a reader;
* `Layer.reads`: the reader of a tag holds the layer behind it, and is flat if there is none.

A layer is higher than the layers within it (`Layer.height_within?`), so that what holds of a layer
once it holds of those within it holds of all.
-/

namespace RadioFrame

open Wire (FieldReader FieldReaders IsSteady)

/-! ### Layers -/

/-- The submessage that stands at a tag of a field. -/
def Form.submessageAt? (own tag : Nat) : Form → Option Submessage
  | record s | optionalRecord s | records s => if tag = own then some s else none
  | choice as => (alternativeOfTag? as own tag).map fun i => (as.get i).submessage
  | single _ | optional _ | list _ | inlined _ => none

/-- The submessage that stands at a tag of a list of fields. -/
def submessageAt? (fields : List Field) (tag : Nat) : Option Submessage :=
  (fields.find? fun f => tag ∈ f.tags).bind fun f => f.form.submessageAt? f.tag tag

/-- The messages of the schema. -/
inductive Layer where
  /-- The frame. -/
  | frame
  /-- The message of a domain. -/
  | domain (d : Domain)
  /-- A body of a shape. -/
  | body (s : Shape)
  /-- A message inside a body. -/
  | submessage (s : Submessage)

namespace Layer

/-- What a layer holds before anything is checked. -/
def Value : Layer → Type
  | frame => Frame
  | domain d => Option (Branch d)
  | body s => s.Raw
  | submessage s => s.Raw

/-- What a layer is called on the wire. -/
def name : Layer → String
  | frame | domain _ => Frame.messageName
  | body s => s.wireName
  | submessage s => s.wireName

/-- The records that change what a layer holds. -/
def readers : (l : Layer) → FieldReaders l.Value
  | frame => Frame.readers
  | domain d => Frame.branchReaders d
  | body s => s.readers
  | submessage s => Wire.rowReader Member.readers s.members

/-- The tags that a layer knows. -/
def tags : Layer → List Nat
  | frame => Domain.all.map Domain.wireTag
  | domain d => (Kind.all d).map Kind.wireTag
  | body s => s.fields.flatMap Field.tags
  | submessage s => s.members.map Member.tag

/-- The layer that stands at a tag of a layer. -/
def within? : Layer → Nat → Option Layer
  | frame, tag => (Domain.ofWireTag? tag).map domain
  | domain d, tag => (Kind.ofWireTag? d tag).map fun k => body (Kind.shape k)
  | body s, tag => (submessageAt? s.fields tag).map submessage
  | submessage _, _ => none

/-- How many layers can stand within a layer, one in the other. -/
def height : Layer → Nat
  | frame => 3
  | domain _ => 2
  | body _ => 1
  | submessage _ => 0

lemma height_within? {l inner : Layer} {tag : Nat} (h : l.within? tag = some inner) :
    inner.height < l.height := by
  cases l with
  | frame | domain _ | body _ =>
      obtain ⟨_, _, rfl⟩ := Option.map_eq_some_iff.mp h
      exact Nat.lt_succ_self _
  | submessage s => cases h

/-- What a layer knows is read steadily. -/
lemma isSteady : (l : Layer) → IsSteady l.readers
  | frame => Frame.isSteady
  | domain d => Frame.isSteady_branch d
  | body s => s.isSteady
  | submessage s => s.isSteady

/-- What a field is, given the layer that stands at its tag: it holds that layer, or is flat. -/
def Reads {σ : Type} (field : FieldReader σ) : Option Layer → Prop
  | none => field.IsFlat
  | some l => field.Holds l.name l.readers

section

variable {α β : Type} {l : Option Layer}

lemma Reads.onFirst {r : FieldReader α} (h : Reads r l) :
    Reads (r.onFirst : FieldReader (α × β)) l := by
  cases l with
  | none => exact FieldReader.IsFlat.onFirst h
  | some l => exact FieldReader.Holds.onFirst h

lemma Reads.onSecond {r : FieldReader β} (h : Reads r l) :
    Reads (r.onSecond : FieldReader (α × β)) l := by
  cases l with
  | none => exact FieldReader.IsFlat.onSecond h
  | some l => exact FieldReader.Holds.onSecond h

/-- What a field takes is a whole value. -/
lemma Reads.takesValues {r : FieldReader α} (h : Reads r l) : r.TakesValues := by
  cases l with
  | none => exact FieldReader.IsFlat.takesValues h
  | some l => exact FieldReader.Holds.takesValues h l.isSteady

end

end Layer

/-! ### Tags -/

lemma Domain.wireTag_of_ofWireTag? {tag : Nat} {d : Domain} (h : ofWireTag? tag = some d) :
    d.wireTag = tag := by
  rw [ofWireTag?.eq_def] at h
  split at h <;> cases h <;> rfl

lemma Domain.mem_all (d : Domain) : d ∈ all := by
  cases d <;> decide

lemma Kind.wireTag_of_ofWireTag? {d : Domain} {own : Nat} {k : Kind d}
    (h : ofWireTag? d own = some k) : k.wireTag = own := by
  rw [ofWireTag?] at h
  split at h
  · next hpos =>
      cases h
      exact Nat.sub_add_cancel hpos.1
  · cases h

section Rows

variable {ι : Type} {V : ι → Type} {entry : ∀ i, FieldReaders (V i)} {tag : Nat}

/-- A row knows the tags of its entries. -/
lemma isSome_rowReader : ∀ {is : List ι} {i : ι}, i ∈ is → (entry i tag).isSome →
    (Wire.rowReader entry is tag).isSome
  | j :: is, i, hi, hsome => by
      rw [Wire.rowReader]
      cases hj : entry j tag with
      | some r => rfl
      | none =>
          rcases List.mem_cons.mp hi with rfl | hi
          · rw [hj] at hsome
            cases hsome
          · exact Option.isSome_map.trans (isSome_rowReader hi hsome)

/-- The reader of a row at a tag is that of the first entry that knows the tag. -/
lemma Layer.reads_rowReader (knows : ι → Bool) (within? : ι → Option Layer) :
    ∀ {is : List ι} {field : FieldReader (Row V is)},
      (∀ i ∈ is, knows i = (entry i tag).isSome) →
      (∀ i ∈ is, ∀ ⦃r⦄, entry i tag = some r → Reads r (within? i)) →
      Wire.rowReader entry is tag = some field → Reads field ((is.find? knows).bind within?)
  | [], _, _, _, h => by cases h
  | i :: is, field, hknows, hentry, h => by
      have hfirst := hknows i List.mem_cons_self
      rw [Wire.rowReader] at h
      cases hi : entry i tag with
      | some r =>
          rw [hi] at h hfirst
          cases h
          rw [List.find?_cons_of_pos hfirst]
          exact (hentry i List.mem_cons_self hi).onFirst
      | none =>
          rw [hi] at h hfirst
          obtain ⟨r, hr, rfl⟩ := Option.map_eq_some_iff.mp h
          rw [List.find?_cons_of_neg (by rw [hfirst]; exact Bool.false_ne_true)]
          exact (reads_rowReader knows within? (fun j hj => hknows j (List.mem_cons_of_mem _ hj))
            (fun j hj => hentry j (List.mem_cons_of_mem _ hj)) hr).onSecond

/-- A row of flat entries is flat. -/
lemma isFlat_rowReader {is : List ι} {field : FieldReader (Row V is)}
    (hentry : ∀ i ∈ is, ∀ ⦃r⦄, entry i tag = some r → r.IsFlat)
    (h : Wire.rowReader entry is tag = some field) : field.IsFlat := by
  have hreads := Layer.reads_rowReader (fun i => (entry i tag).isSome) (fun _ => none)
    (fun _ _ => rfl) hentry h
  rw [Option.bind_fun_none] at hreads
  exact hreads

end Rows

/-- A field has a reader at its tags and at no others. -/
lemma Form.isSome_readers_iff {name : String} {own tag : Nat} (f : Form) :
    (f.readers name own tag).isSome ↔ tag ∈ f.tags own := by
  constructor
  · intro h
    refine Decidable.byContradiction fun hnot => ?_
    rw [f.readers_eq_none hnot] at h
    cases h
  · intro h
    have hself : ∀ {σ : Type} (r : FieldReader σ), (readerAt own r own).isSome := fun r => by
      rw [readerAt, if_pos rfl]
      rfl
    cases f with
    | single d | optional d | list d | record s | optionalRecord s | records s =>
        cases List.mem_singleton.mp h
        exact hself _
    | choice as =>
        obtain ⟨i, hi, rfl⟩ := List.mem_map.mp h
        have hlt : own ≤ own + i ∧ own + i - own < as.length := by
          have hi := List.mem_range.mp hi
          omega
        rw [readers, Wire.oneOfReader, alternativeOfTag?, dif_pos hlt]
        rfl
    | inlined s =>
        obtain ⟨m, hm, rfl⟩ := List.mem_map.mp h
        refine isSome_rowReader hm ?_
        rw [inlinedReaders, readerAt, if_pos rfl]
        rfl

/-- A layer knows its own tags only. -/
theorem Layer.readers_eq_none (l : Layer) {tag : Nat} (h : tag ∉ l.tags) :
    l.readers tag = none := by
  cases l with
  | frame =>
      have hno : Domain.ofWireTag? tag = none := Option.eq_none_iff_forall_ne_some.mpr fun d hd =>
        h (List.mem_map.mpr ⟨d, d.mem_all, Domain.wireTag_of_ofWireTag? hd⟩)
      rw [readers, Frame.readers, Wire.oneOfReader, hno]
      rfl
  | domain d =>
      have hno : Kind.ofWireTag? d tag = none := Option.eq_none_iff_forall_ne_some.mpr fun k hk =>
        h (List.mem_map.mpr ⟨k, List.mem_finRange k, Kind.wireTag_of_ofWireTag? hk⟩)
      rw [readers, Frame.branchReaders, Wire.oneOfReader, hno]
      rfl
  | body s =>
      exact rowReader_eq_none fun f hf => f.form.readers_eq_none fun hown =>
        h (List.mem_flatMap.mpr ⟨f, hf, hown⟩)
  | submessage s =>
      exact rowReader_eq_none fun m hm => if_neg fun heq =>
        h (List.mem_map.mpr ⟨m, hm, heq.symm⟩)

/-- A layer knows the tags at which other layers stand. -/
lemma Layer.isSome_readers_of_within? {l inner : Layer} {tag : Nat}
    (h : l.within? tag = some inner) : (l.readers tag).isSome := by
  cases l with
  | frame =>
      obtain ⟨d, hd, _⟩ := Option.map_eq_some_iff.mp h
      rw [readers, Frame.readers, Wire.oneOfReader, hd]
      rfl
  | domain d =>
      obtain ⟨k, hk, _⟩ := Option.map_eq_some_iff.mp h
      rw [readers, Frame.branchReaders, Wire.oneOfReader, hk]
      rfl
  | body s =>
      obtain ⟨_, hs, _⟩ := Option.map_eq_some_iff.mp h
      obtain ⟨f, hf, _⟩ := Option.bind_eq_some_iff.mp hs
      have htag : tag ∈ f.tags := of_decide_eq_true (List.find?_some (p := fun f : Field =>
        decide (tag ∈ f.tags)) hf)
      exact isSome_rowReader (List.mem_of_find?_eq_some hf) (f.form.isSome_readers_iff.mpr htag)
  | submessage s => cases h

/-! ### Fields -/

namespace Form

lemma isFlat_singleReader (s : Wire.Scalar) (label : String) :
    (singleReader s label).IsFlat where
  takesValues found _ _ bytes t rest h := by
    obtain ⟨w, hbytes, hw⟩ := s.exists_isValue_of_read h
    exact ⟨1, w, hbytes, hw⟩
  shallow found _ _ bytes := s.shallow_read found bytes

lemma isFlat_listReader (s : Wire.Scalar) (label : String) : (listReader s label).IsFlat := by
  have helement : ∀ values bytes, Wire.Shallow (readElement s values bytes) := fun values bytes =>
    (s.shallow_readValue bytes).bind fun _ _ => Wire.shallow_ok _
  constructor
  · intro found budget values bytes t rest h
    by_cases hpacked : found = .lengthDelimited ∧ s.wireType ≠ .lengthDelimited
    · simp only [listReader, if_pos hpacked] at h
      obtain ⟨w, ws, rfl, hw, _⟩ :=
        (Wire.readDelimited_eq_ok_iff (steadyStep_readElement s)).mp h
      obtain ⟨rfl, _⟩ := hpacked
      exact ⟨1, w ++ ws.flatten, (List.append_assoc _ _ _).symm, fun _ => .sized hw⟩
    · simp only [listReader, if_neg hpacked] at h
      obtain ⟨_, hexpect, helement⟩ := bind_eq_ok.mp h
      obtain ⟨⟨v, r⟩, hv, hok⟩ := bind_eq_ok.mp helement
      cases hok
      obtain ⟨w, hbytes, hw⟩ := s.exists_isValue_of_read (bind_eq_ok.mpr ⟨_, hexpect, hv⟩)
      exact ⟨1, w, hbytes, hw⟩
  · intro found budget values bytes
    by_cases hpacked : found = .lengthDelimited ∧ s.wireType ≠ .lengthDelimited
    · simp only [listReader, if_pos hpacked]
      exact Wire.shallow_readDelimited fun _ _ _ _ => Wire.shallow_readUntil helement _ _ _
    · simp only [listReader, if_neg hpacked]
      exact (Wire.shallow_expect _ _).bind fun _ _ => helement values bytes

/-- A reader at one tag is the reader there. -/
lemma eq_of_readerAt {σ : Type} {own tag : Nat} {r field : FieldReader σ}
    (h : readerAt own r tag = some field) : tag = own ∧ field = r := by
  rw [readerAt] at h
  split at h
  · next htag =>
      cases h
      exact ⟨htag, rfl⟩
  · cases h

/-- What a field reads at a tag is the submessage that stands there, or is flat. -/
lemma reads {name : String} {own tag : Nat} (f : Form) {field : FieldReader f.Raw}
    (h : f.readers name own tag = some field) :
    Layer.Reads field ((f.submessageAt? own tag).map .submessage) := by
  cases f with
  | single d =>
      obtain ⟨rfl, rfl⟩ := eq_of_readerAt h
      exact isFlat_singleReader d.scalar name
  | optional d =>
      obtain ⟨rfl, rfl⟩ := eq_of_readerAt h
      refine ⟨fun found _ _ bytes t rest hread => ?_, fun found _ _ bytes => ?_⟩
      · obtain ⟨⟨v, r⟩, hv, hok⟩ := bind_eq_ok.mp hread
        cases hok
        obtain ⟨w, hbytes, hw⟩ := d.scalar.exists_isValue_of_read hv
        exact ⟨1, w, hbytes, hw⟩
      · exact (d.scalar.shallow_read found bytes).bind fun _ _ => Wire.shallow_ok _
  | list d =>
      obtain ⟨rfl, rfl⟩ := eq_of_readerAt h
      exact isFlat_listReader d.scalar name
  | record s | optionalRecord s =>
      obtain ⟨rfl, rfl⟩ := eq_of_readerAt h
      rw [submessageAt?, if_pos rfl]
      exact ⟨fun v => v.getD s.blank, fun _ v => some v, fun _ _ _ _ => rfl⟩
  | records s =>
      obtain ⟨rfl, rfl⟩ := eq_of_readerAt h
      rw [submessageAt?, if_pos rfl]
      exact ⟨fun _ => s.blank, fun (vs : List s.Raw) (v : s.Raw) => vs ++ [v], fun _ _ _ _ => rfl⟩
  | choice as =>
      cases hi : alternativeOfTag? as own tag with
      | none =>
          rw [readers, Wire.oneOfReader, hi] at h
          cases h
      | some i =>
          rw [submessageAt?, hi]
          exact Wire.holds_oneOf (fun i : Fin as.length => (as.get i).submessage.wireName)
            (fun i : Fin as.length =>
              Wire.rowReader Member.readers (as.get i).submessage.members) hi h
  | inlined s =>
      refine isFlat_rowReader (fun m _ r hr => ?_) h
      obtain ⟨_, rfl⟩ := eq_of_readerAt hr
      exact isFlat_singleReader m.datum.scalar _

end Form

/-- What a layer reads at a tag is the layer that stands there, or is flat. -/
theorem Layer.reads (l : Layer) {tag : Nat} {field : FieldReader l.Value}
    (h : l.readers tag = some field) : Reads field (l.within? tag) := by
  cases l with
  | frame =>
      cases hd : Domain.ofWireTag? tag with
      | none =>
          rw [readers, Frame.readers, Wire.oneOfReader, hd] at h
          cases h
      | some d =>
          rw [within?, hd]
          exact Wire.holds_oneOf (fun _ => Frame.messageName) Frame.branchReaders hd h
  | domain d =>
      cases hk : Kind.ofWireTag? d tag with
      | none =>
          rw [readers, Frame.branchReaders, Wire.oneOfReader, hk] at h
          cases h
      | some k =>
          rw [within?, hk]
          exact Wire.holds_oneOf (fun k : Kind d => (Kind.shape k).wireName)
            (fun k : Kind d => (Kind.shape k).readers) hk h
  | body s =>
      have hrow := reads_rowReader (fun f : Field => tag ∈ f.tags)
        (fun f => (f.form.submessageAt? f.tag tag).map .submessage)
        (fun f _ => Bool.eq_iff_iff.mpr
          (decide_eq_true_iff.trans f.form.isSome_readers_iff.symm))
        (fun f _ r hr => f.form.reads hr) h
      rw [within?, submessageAt?, Option.map_bind]
      exact hrow
  | submessage s =>
      refine isFlat_rowReader (fun m _ r hr => ?_) h
      obtain ⟨_, rfl⟩ := Form.eq_of_readerAt hr
      exact Form.isFlat_singleReader m.datum.scalar _

/-- What a layer takes at a tag is a whole value. -/
lemma Layer.takesValues (l : Layer) : Wire.TakesValues l.readers := fun _ _ h =>
  (l.reads h).takesValues

end RadioFrame
