import Mathlib.Data.List.DropRight
import RadioFrame.Proofs.Schema.Layers
import RadioFrame.Proofs.Wire.Pieces

/-!
What the records of a body come to, field by field.

The records of a body may stand in any order. `Form.gather` says what a field makes of those that
are its own, without looking at the others:

* a simple value is the last one, and zero if there is none;
* simple values and submessages in lists are put one behind the other;
* a submessage is merged from all of its records in order, one after the other;
* of alternatives the last one counts, merged from its records behind those of any other.

The slots of a field (`Form.slots`) are the groups of tags that it looks at together: the tags of
alternatives are one slot, any other tag is a slot of its own. Records that agree slot by slot are
gathered alike (`Form.gather_congr`), and what is gathered is what is read
(`Shape.gather_of_leads`). That all fields are read uniformly (`Shape.isUniform`) makes it enough to
know of each record alone that it can be read. Of the records that are written of a body, those of a
field's slot are the ones that the field writes (`Shape.inSlot_toRecords`).
-/

namespace RadioFrame

open Wire (Record FieldReaders IsUniform Uniform Leads Takes Consumes)

/-! ### The fields of the schema are uniform -/

lemma isUniform_singleReader (s : Wire.Scalar) (label : String) :
    (singleReader s label).IsUniform := fun found _ => Wire.uniform_const (s.read found)

lemma Submessage.isUniform (s : Submessage) : IsUniform (Wire.rowReader Member.readers s.members) :=
  Wire.isUniform_rowReader (fun m _ field h => by
    obtain ⟨_, rfl⟩ := Form.eq_of_readerAt h
    exact isUniform_singleReader m.datum.scalar m.name) s.members

lemma Submessage.uniform_merge (s : Submessage) (found : Wire.WireType) (budget : Nat) :
    Uniform (s.merge found budget) := s.isUniform.mergeDelimited s.wireName found budget

namespace Form

lemma uniform_readElement (s : Wire.Scalar) : Uniform (readElement s) :=
  (Wire.uniform_const s.readValue).part id fun values v => values ++ [v]

lemma isUniform_listReader (s : Wire.Scalar) (label : String) : (listReader s label).IsUniform := by
  intro found budget
  by_cases hpacked : found = .lengthDelimited ∧ s.wireType ≠ .lengthDelimited
  · simp only [listReader, if_pos hpacked]
    exact (uniform_readElement s).readDelimited
  · simp only [listReader, if_neg hpacked]
    exact (uniform_readElement s).after _

/-- Every form of field is read uniformly. -/
lemma isUniform (name : String) (own : Nat) (f : Form) : IsUniform (f.readers name own) := by
  intro tag field h
  cases f with
  | single d =>
      obtain ⟨_, rfl⟩ := eq_of_readerAt h
      exact isUniform_singleReader d.scalar name
  | optional d =>
      obtain ⟨_, rfl⟩ := eq_of_readerAt h
      exact fun found budget =>
        (Wire.uniform_const (d.scalar.read found)).part (τ := Option d.Raw) id fun _ v => some v
  | list d =>
      obtain ⟨_, rfl⟩ := eq_of_readerAt h
      exact isUniform_listReader d.scalar name
  | record s | optionalRecord s =>
      obtain ⟨_, rfl⟩ := eq_of_readerAt h
      exact fun found budget =>
        (s.uniform_merge found budget).part (τ := Option s.Raw)
          (fun v : Option s.Raw => v.getD s.blank)
          fun _ v => some v
  | records s =>
      obtain ⟨_, rfl⟩ := eq_of_readerAt h
      exact fun found budget =>
        (s.uniform_merge found budget).part (τ := List s.Raw) (fun _ => s.blank)
          fun values v => values ++ [v]
  | choice as =>
      exact Wire.isUniform_oneOfReader (fun i => (as.get i).submessage.uniform_merge) h
  | inlined s =>
      exact Wire.isUniform_rowReader (fun m _ field h => by
        obtain ⟨_, rfl⟩ := eq_of_readerAt h
        exact isUniform_singleReader m.datum.scalar _) s.members h

end Form

/-- The fields of a body are read uniformly. -/
lemma Shape.isUniform (s : Shape) : IsUniform s.readers :=
  Wire.isUniform_rowReader (fun f => f.form.isUniform f.name f.tag) s.fields

/-! ### Own records -/

/-- The records whose tags are in a slot. -/
def inSlot (slot : List Nat) (rs : List Record) : List Record := rs.filter fun r => r.tag ∈ slot

/-- The groups of tags that a field looks at together, its first tag given. -/
def Form.slots (own : Nat) : Form → List (List Nat)
  | choice as => [(choice as).tags own]
  | f => (f.tags own).map fun tag => [tag]

/-- The slots of a shape. -/
def Shape.slots (s : Shape) : List (List Nat) := s.fields.flatMap fun f => f.form.slots f.tag

/-! ### Gathering -/

/-- How deep what stands inside a body may be nested: the body stands inside two messages. -/
def Shape.depth : Nat := Wire.maxDepth - 2

/-- The simple value that a record holds. -/
def Wire.Record.scalar (s : Wire.Scalar) (r : Record) : Except Wire.Fault s.Value := do
  let (v, _) ← s.read r.wireType r.value
  .ok v

/-- The last simple value of some records, zero if there are none. -/
def lastScalar (s : Wire.Scalar) (rs : List Record) : Except Wire.Fault s.Value := do
  let vs ← tryEach (Record.scalar s) rs
  .ok (vs.getLast?.getD s.zero)

/-- Merges what a record holds into a submessage. -/
def Submessage.add (s : Submessage) (v : s.Raw) (r : Record) : Except Wire.Fault s.Raw := do
  let (v, _) ← s.merge r.wireType Shape.depth v r.value
  .ok v

/-- The submessage that some records make, if there are any. -/
def Submessage.gather (s : Submessage) (rs : List Record) : Except Wire.Fault (Option s.Raw) :=
  if rs = [] then .ok none
  else do
    let v ← rs.foldlM s.add s.blank
    .ok (some v)

namespace Form

/-- The simple values that a record of a list holds. -/
def elements (s : Wire.Scalar) (r : Record) : Except Wire.Fault (List s.Value) := do
  let (vs, _) ← (listReader s "").read r.wireType 0 [] r.value
  .ok vs

/-- What a field whose first tag is given makes of some records. -/
def gather (own : Nat) (rs : List Record) : (f : Form) → Except Wire.Fault f.Raw
  | single d => lastScalar d.scalar (inSlot [own] rs)
  | optional d => do
      let vs ← tryEach (Record.scalar d.scalar) (inSlot [own] rs)
      .ok (vs.getLast? : Option d.Raw)
  | list d => do
      let vss ← tryEach (elements d.scalar) (inSlot [own] rs)
      .ok (vss.flatten : List d.Raw)
  | record s => s.gather (inSlot [own] rs)
  | optionalRecord s => s.gather (inSlot [own] rs)
  | records s => tryEach (s.add s.blank) (inSlot [own] rs)
  | choice as =>
      let mine := inSlot ((choice as).tags own) rs
      match mine.getLast?.bind fun r => alternativeOfTag? as own r.tag with
      | none =>
          .ok (none : Option (OneOf fun i : Fin as.length => (as.get i).submessage.Raw))
      | some i => do
          let v ← (mine.rtakeWhile fun r => r.tag = own + i).foldlM (as.get i).submessage.add
            (as.get i).submessage.blank
          .ok (some ⟨i, v⟩ : Option (OneOf fun i : Fin as.length => (as.get i).submessage.Raw))
  | inlined s =>
      Row.tryOfFn (fun m : Member => lastScalar m.datum.scalar (inSlot [own + m.tag - 1] rs))
        s.members

end Form

/-- What a body makes of some records. -/
def Shape.gather (s : Shape) (rs : List Record) : Except Wire.Fault s.Raw :=
  Row.tryOfFn (fun f : Field => f.form.gather f.tag rs) s.fields

/-! ### Slots are all that matters -/

lemma Form.gather_congr {own : Nat} {rs rs' : List Record} (f : Form)
    (h : ∀ slot ∈ f.slots own, inSlot slot rs = inSlot slot rs') :
    f.gather own rs = f.gather own rs' := by
  cases f with
  | single d => exact congrArg (lastScalar d.scalar) (h [own] List.mem_cons_self)
  | optional d | list d =>
      rw [gather, gather, h [own] List.mem_cons_self]
  | record s | optionalRecord s => exact congrArg s.gather (h [own] List.mem_cons_self)
  | records s => exact congrArg (tryEach (s.add s.blank)) (h [own] List.mem_cons_self)
  | choice as =>
      have hown := h _ List.mem_cons_self
      simp only [gather, hown]
  | inlined s =>
      refine Row.tryOfFn_congr fun m hm => ?_
      have hown := h [own + m.tag - 1]
        (List.mem_map_of_mem (List.mem_map_of_mem (f := fun m : Member => own + m.tag - 1) hm))
      rw [hown]

/-- Records that agree slot by slot come to the same. -/
theorem Shape.gather_congr (s : Shape) {rs rs' : List Record}
    (h : ∀ slot ∈ s.slots, inSlot slot rs = inSlot slot rs') : s.gather rs = s.gather rs' :=
  Row.tryOfFn_congr fun f hf => f.form.gather_congr fun slot hslot =>
    h slot (List.mem_flatMap.mpr ⟨f, hf, hslot⟩)

/-- A field looks at no record that is not its own. -/
lemma Form.gather_inSlot (own : Nat) (rs : List Record) (f : Form) :
    f.gather own (inSlot (f.tags own) rs) = f.gather own rs := by
  have hsub : ∀ slot ∈ f.slots own, slot ⊆ f.tags own := by
    intro slot hslot
    cases f with
    | choice as =>
        obtain rfl := List.mem_singleton.mp hslot
        exact List.Subset.refl _
    | single d | optional d | list d | record s | optionalRecord s | records s | inlined s =>
        obtain ⟨tag, htag, rfl⟩ := List.mem_map.mp hslot
        exact List.cons_subset.mpr ⟨htag, List.nil_subset _⟩
  refine f.gather_congr fun slot hslot => ?_
  rw [inSlot, inSlot, inSlot, List.filter_filter]
  refine List.filter_congr fun r _ => ?_
  rw [Bool.and_eq_left_iff_imp]
  simpa using fun hr => hsub slot hslot hr

/-! ### What is gathered is what is read -/

/-- Values each of which takes the place of the one before leave the last. -/
lemma foldl_replace {α σ : Type} (g : α → σ) :
    ∀ (as : List α) (s : σ), as.foldl (fun _ a => g a) s = (as.getLast?.map g).getD s
  | [], _ => rfl
  | a :: as, s => by
      rw [List.foldl_cons, foldl_replace g as, List.getLast?_cons]
      cases as.getLast? with
      | none => rfl
      | some last => rfl

lemma foldl_some {α : Type} (as : List α) : as.foldl (fun _ a => some a) none = as.getLast? := by
  rw [foldl_replace]
  cases as.getLast? with
  | none | some a => rfl

lemma foldl_append {α : Type} (ass : List (List α)) :
    ass.foldl (fun before as => before ++ as) [] = ass.flatten := by
  have hfold : ass.foldl (fun before as => before ++ id as) [] = [] ++ (ass.map id).flatten :=
    List.foldl_append_eq_append
  rwa [List.map_id, List.nil_append] at hfold

lemma foldl_concat {α : Type} (as : List α) : as.foldl (fun before a => before ++ [a]) [] = as := by
  rw [List.foldl_append_eq_append, List.nil_append, ← List.flatMap_def, List.flatMap_singleton']

section Reading

variable {budget own : Nat} {name : String} {rs mine : List Record}

/-- A record that the reader of a field takes is read as its value. -/
lemma read_of_takes {σ : Type} {field : Wire.FieldReader σ} {s t : σ} {r : Record}
    (h : Takes (Form.readerAt own field) budget s r t) :
    field.read r.wireType budget s r.value = .ok (t, []) := by
  obtain ⟨_, own', hown, hread⟩ := h
  obtain ⟨_, rfl⟩ := Form.eq_of_readerAt hown
  have hvalue := hread []
  rwa [List.append_nil] at hvalue

lemma lastScalar_of_leads {s : Wire.Scalar} {v : s.Value}
    (h : Leads (Takes (Form.readerAt own (singleReader s name)) budget) s.zero mine v) :
    lastScalar s mine = .ok v := by
  obtain ⟨vs, hvs, rfl⟩ := h.exists_foldl (Record.scalar s) (fun _ v => v)
    fun hr => ⟨_, bind_eq_ok.mpr ⟨_, read_of_takes hr, rfl⟩, rfl⟩
  rw [lastScalar, hvs, foldl_replace, Option.map_id']
  rfl

namespace Form

/-- The elements that a list gets do not depend on those it has. -/
lemma leads_elements {s : Wire.Scalar} {ws : List Bytes} {values t : List s.Value}
    (h : Leads (Consumes (readElement s)) values ws t) :
    ∃ vs, t = values ++ vs ∧ ∀ start, Leads (Consumes (readElement s)) start ws (start ++ vs) := by
  induction h with
  | nil values =>
      refine ⟨[], (List.append_nil _).symm, fun start => ?_⟩
      rw [List.append_nil]
      exact .nil start
  | @cons values u t w ws hw _ ih =>
      obtain ⟨hne, hstep⟩ := hw
      obtain ⟨⟨v, _⟩, hv, hok⟩ := bind_eq_ok.mp (hstep [])
      cases hok
      obtain ⟨vs, rfl, hrest⟩ := ih
      refine ⟨v :: vs, by rw [List.append_assoc]; rfl, fun start => ?_⟩
      have hmore : Consumes (readElement s) start w (start ++ [v]) := by
        refine ⟨hne, fun rest => ?_⟩
        obtain ⟨⟨v', r⟩, hv', hok⟩ := bind_eq_ok.mp (hstep rest)
        obtain ⟨hvalue, rfl⟩ := Prod.mk.inj (Except.ok.inj hok)
        obtain rfl := List.singleton_inj.mp (List.append_cancel_left hvalue)
        exact bind_eq_ok.mpr ⟨_, hv', rfl⟩
      have htail := hrest (start ++ [v])
      rw [List.append_assoc] at htail
      exact .cons hmore htail

lemma elements_of_read {s : Wire.Scalar} {values t : List s.Value} {r : Record}
    (h : (listReader s name).read r.wireType budget values r.value = .ok (t, [])) :
    ∃ vs, elements s r = .ok vs ∧ t = values ++ vs := by
  by_cases hpacked : r.wireType = .lengthDelimited ∧ s.wireType ≠ .lengthDelimited
  · simp only [listReader, if_pos hpacked] at h
    obtain ⟨w, ws, hbytes, hw, hws⟩ :=
      (Wire.readDelimited_eq_ok_iff (steadyStep_readElement s)).mp h
    obtain ⟨vs, rfl, hstart⟩ := leads_elements hws
    refine ⟨vs, bind_eq_ok.mpr ⟨(vs, []), ?_, rfl⟩, rfl⟩
    simp only [listReader, if_pos hpacked]
    exact (Wire.readDelimited_eq_ok_iff (steadyStep_readElement s)).mpr
      ⟨w, ws, hbytes, hw, hstart []⟩
  · simp only [listReader, if_neg hpacked] at h
    obtain ⟨_, hexpect, helement⟩ := bind_eq_ok.mp h
    obtain ⟨⟨v, left⟩, hv, hok⟩ := bind_eq_ok.mp helement
    cases hok
    refine ⟨[v], bind_eq_ok.mpr ⟨([v], []), ?_, rfl⟩, rfl⟩
    simp only [listReader, if_neg hpacked]
    exact bind_eq_ok.mpr ⟨(), hexpect, bind_eq_ok.mpr ⟨_, hv, rfl⟩⟩

end Form

/-- Records of a submessage are merged into what is there, one after the other. -/
lemma foldlM_of_leads {s : Submessage} : ∀ {mine : List Record} {current t : Option s.Raw},
    Leads (Takes (Form.readerAt own (Form.submessageReader s name)) Shape.depth) current mine t →
      mine = [] ∧ t = current ∨ ∃ v, mine.foldlM s.add (current.getD s.blank) = .ok v ∧ t = some v
  | [], _, _, h => by
      cases h
      exact .inl ⟨rfl, rfl⟩
  | r :: mine, current, t, h => by
      cases h with
      | cons hr hrest =>
          obtain ⟨⟨v, left⟩, hv, hok⟩ := bind_eq_ok.mp (read_of_takes hr)
          cases hok
          have hadd : s.add (current.getD s.blank) r = .ok v := bind_eq_ok.mpr ⟨_, hv, rfl⟩
          refine .inr ?_
          rw [List.foldlM_cons, hadd, ok_bind]
          rcases foldlM_of_leads hrest with ⟨rfl, rfl⟩ | hmore
          · exact ⟨v, rfl, rfl⟩
          · exact hmore

lemma Submessage.gather_of_leads {s : Submessage} {t : Option s.Raw}
    (h : Leads (Takes (Form.readerAt own (Form.submessageReader s name)) Shape.depth) none mine t) :
    s.gather mine = .ok t := by
  rw [gather]
  rcases foldlM_of_leads h with ⟨rfl, rfl⟩ | ⟨v, hv, rfl⟩
  · rfl
  · split
    · next hnil =>
        subst hnil
        cases h
    · exact bind_eq_ok.mpr ⟨v, hv, rfl⟩

/-- The tag of an alternative is its place behind the first. -/
lemma Form.add_of_alternativeOfTag? {as : List Alternative} {own tag : Nat} {i : Fin as.length}
    (h : alternativeOfTag? as own tag = some i) : own + i = tag := by
  rw [alternativeOfTag?] at h
  split at h
  · next htag =>
      cases h
      exact Nat.add_sub_of_le htag.1
  · cases h

/-- Records of alternatives leave the one that the last of them names, merged from the last records
of its own. -/
lemma Form.last_of_leads {as : List Alternative} {t : (choice as).Raw}
    (h : Leads (Takes ((choice as).readers name own) Shape.depth) (choice as).blank mine t) :
    mine = [] ∧ t = (choice as).blank ∨
      ∃ (i : Fin as.length) (v : (as.get i).submessage.Raw),
        (mine.getLast?.bind fun r => alternativeOfTag? as own r.tag) = some i ∧
        (mine.rtakeWhile fun r => r.tag = own + i).foldlM (as.get i).submessage.add
          (as.get i).submessage.blank = .ok v ∧
        t = (some ⟨i, v⟩ : Option (OneOf fun i : Fin as.length => (as.get i).submessage.Raw)) := by
  induction mine using List.reverseRecOn generalizing t with
  | nil =>
      cases h
      exact .inl ⟨rfl, rfl⟩
  | append_singleton mine r ih =>
      obtain ⟨u, hu, hr⟩ := h.of_concat
      obtain ⟨_, field, hfield, hread⟩ := hr
      obtain ⟨i, hi, rfl⟩ := Option.map_eq_some_iff.mp hfield
      have hvalue := hread []
      rw [List.append_nil] at hvalue
      obtain ⟨⟨v, left⟩, hv, hok⟩ := bind_eq_ok.mp hvalue
      cases hok
      have htag : r.tag = own + i := (add_of_alternativeOfTag? hi).symm
      have hlast : (mine ++ [r]).getLast? = some r := List.getLast?_concat
      have hrun : (mine ++ [r]).rtakeWhile (fun r => r.tag = own + i)
          = mine.rtakeWhile (fun r => r.tag = own + i) ++ [r] :=
        List.rtakeWhile_concat_pos _ _ _ (decide_eq_true htag)
      refine .inr ⟨i, v, by rw [hlast]; exact hi, ?_, rfl⟩
      -- what the records before have left for this alternative
      have hbefore : (mine.rtakeWhile fun r => r.tag = own + i).foldlM (as.get i).submessage.add
          (as.get i).submessage.blank
            = .ok (OneOf.valueAt (fun i => (as.get i).submessage.blank) u i) := by
        rcases ih hu with ⟨rfl, rfl⟩ | ⟨j, w, hj, hw, rfl⟩
        · rfl
        · by_cases hij : j = i
          · subst hij
            rw [hw, OneOf.valueAt, dif_pos rfl]
          · obtain ⟨r', hr', hj'⟩ := Option.bind_eq_some_iff.mp hj
            obtain ⟨before, rfl⟩ := List.getLast?_eq_some_iff.mp hr'
            have hother : ¬decide (r'.tag = own + i) = true := by
              rw [decide_eq_true_iff, ← add_of_alternativeOfTag? hj', Nat.add_left_cancel_iff]
              exact fun heq => hij (Fin.ext heq)
            rw [List.rtakeWhile_concat_neg (fun r : Record => decide (r.tag = own + i)) _ _ hother,
              OneOf.valueAt, dif_neg hij]
            rfl
      rw [hrun, List.foldlM_append, hbefore, ok_bind]
      exact bind_eq_ok.mpr ⟨v, bind_eq_ok.mpr ⟨_, hv, rfl⟩, rfl⟩

/-- The members of an inlined submessage have tags of their own. -/
lemma Form.pairwise_inlinedReaders (s : Submessage) :
    s.members.Pairwise fun m m' => ∀ tag, (inlinedReaders name own m tag).isSome →
      (inlinedReaders name own m' tag).isSome = false := by
  refine s.tags_ascending.imp_of_mem fun {m m'} hm hm' hlt tag htag => ?_
  have hpos := (s.tags_valid m hm).1
  obtain ⟨field, hfield⟩ := Option.isSome_iff_exists.mp htag
  obtain ⟨rfl, _⟩ := eq_of_readerAt hfield
  rw [inlinedReaders, readerAt, if_neg (by omega)]
  rfl

/-- Each member of an inlined submessage is the last of its own records. -/
lemma Form.members_of_leads {s : Submessage} {t : s.Raw}
    (h : Leads (Takes (Wire.rowReader (inlinedReaders name own) s.members) budget) s.blank mine t) :
    Row.tryOfFn (fun m : Member => lastScalar m.datum.scalar (inSlot [own + m.tag - 1] mine))
      s.members = .ok t := by
  refine Row.tryOfFn_eq_ok_iff.mpr fun k => ?_
  have hplace := Wire.leads_get (pairwise_inlinedReaders s) h k
  rw [Submessage.blank, Row.get_ofFn] at hplace
  have hown : (mine.filter fun r => (inlinedReaders name own (s.members.get k) r.tag).isSome)
      = inSlot [own + (s.members.get k).tag - 1] mine := by
    refine List.filter_congr fun r _ => ?_
    rw [inlinedReaders, readerAt]
    split
    · next htag => exact (decide_eq_true (List.mem_singleton.mpr htag)).symm
    · next htag => exact (decide_eq_false (mt List.mem_singleton.mp htag)).symm
  rw [hown] at hplace
  exact lastScalar_of_leads hplace

/-- What the records of a field lead to is what the field makes of them. -/
lemma Form.gather_of_leads (f : Form) {t : f.Raw}
    (h : Leads (Takes (f.readers name own) Shape.depth) f.blank (inSlot (f.tags own) rs) t) :
    f.gather own rs = .ok t := by
  cases f with
  | single d => exact lastScalar_of_leads h
  | optional d =>
      obtain ⟨vs, hvs, rfl⟩ := h.exists_foldl (Record.scalar d.scalar)
        (fun _ v => (some v : Option d.Raw)) fun hr => by
          obtain ⟨⟨v, left⟩, hv, hok⟩ := bind_eq_ok.mp (read_of_takes hr)
          cases hok
          exact ⟨v, bind_eq_ok.mpr ⟨_, hv, rfl⟩, rfl⟩
      refine bind_eq_ok.mpr ⟨vs, hvs, congrArg Except.ok ?_⟩
      exact (foldl_some vs).symm
  | list d =>
      obtain ⟨vss, hvss, rfl⟩ := h.exists_foldl (elements d.scalar)
        (fun values vs => values ++ vs) fun hr => elements_of_read (read_of_takes hr)
      exact bind_eq_ok.mpr ⟨vss, hvss, congrArg Except.ok (foldl_append vss).symm⟩
  | record s | optionalRecord s => exact s.gather_of_leads h
  | records s =>
      obtain ⟨vs, hvs, rfl⟩ := h.exists_foldl (s.add s.blank)
        (fun (values : List s.Raw) v => values ++ [v]) fun hr => by
          obtain ⟨⟨v, left⟩, hv, hok⟩ := bind_eq_ok.mp (read_of_takes hr)
          cases hok
          exact ⟨v, bind_eq_ok.mpr ⟨_, hv, rfl⟩, rfl⟩
      exact hvs.trans (congrArg Except.ok (foldl_concat vs).symm)
  | choice as =>
      rcases last_of_leads h with ⟨hnil, rfl⟩ | ⟨i, v, hi, hv, rfl⟩
      · simp only [gather, hnil]
        rfl
      · simp only [gather, hi]
        exact bind_eq_ok.mpr ⟨v, hv, rfl⟩
  | inlined s =>
      rw [← gather_inSlot]
      exact members_of_leads h

end Reading

/-- No two fields of a shape know the same tag. -/
lemma Shape.pairwise_readers (s : Shape) :
    s.fields.Pairwise fun f g => ∀ tag,
      (f.readers tag).isSome → (g.readers tag).isSome = false := by
  refine s.tags_apart.imp fun {f g} hapart tag hf => ?_
  rw [← Bool.not_eq_true]
  intro hg
  have htag := f.form.isSome_readers_iff.mp hf
  have htag' := g.form.isSome_readers_iff.mp hg
  rcases hapart with hbefore | hbefore
  · exact Nat.lt_irrefl _ (hbefore.2 tag htag tag htag')
  · exact Nat.lt_irrefl _ (hbefore.2 tag htag' tag htag)

/-- What the pieces of a body lead to is what its fields make of their records. -/
theorem Shape.gather_of_leads (s : Shape) {ps : List Wire.Piece} {raw : s.Raw}
    (h : Leads (Consumes (Wire.mergeRecord s.wireName s.readers Shape.depth)) s.blank
      (ps.map Wire.Piece.bytes) raw) : s.gather (ps.map Wire.Piece.record) = .ok raw := by
  have hknown := Wire.leads_takes h
  refine Row.tryOfFn_eq_ok_iff.mpr fun k => ?_
  have hplace := Wire.leads_get s.pairwise_readers hknown k
  rw [blank, Row.get_ofFn] at hplace
  have hown : (((ps.map Wire.Piece.record).filter fun r => (s.readers r.tag).isSome).filter
      fun r => ((s.fields.get k).readers r.tag).isSome)
      = inSlot (s.fields.get k).tags (ps.map Wire.Piece.record) := by
    rw [List.filter_filter]
    refine List.filter_congr fun r _ => ?_
    have hiff : ((s.fields.get k).readers r.tag).isSome ↔ r.tag ∈ (s.fields.get k).tags :=
      (s.fields.get k).form.isSome_readers_iff
    by_cases htag : r.tag ∈ (s.fields.get k).tags
    · have hrow : (s.readers r.tag).isSome :=
        isSome_rowReader (List.get_mem s.fields k) (hiff.mpr htag)
      rw [hiff.mpr htag, hrow, decide_eq_true htag]
      rfl
    · rw [Bool.eq_false_iff.mpr (mt hiff.mp htag), decide_eq_false htag]
      rfl
  rw [hown] at hplace
  exact (s.fields.get k).form.gather_of_leads hplace

/-! ### The field at a place -/

/-- A body takes what the field at a place takes. -/
lemma Shape.takes_set (s : Shape) {budget : Nat} {raw : s.Raw} {r : Record}
    (k : Fin s.fields.length)
    {v : (s.fields.get k).Raw} (h : Takes (s.fields.get k).readers budget (raw.get k) r v) :
    Takes s.readers budget raw r (raw.set k v) :=
  Wire.takes_set s.pairwise_readers k h

/-- Of the records of a body those of a field are the ones at its tags. -/
lemma Shape.inSlot_toRecords (s : Shape) (raw : s.Raw) (k : Fin s.fields.length) :
    inSlot (s.fields.get k).tags (s.toRecords raw) = (s.fields.get k).toRecords (raw.get k) := by
  refine (interleaved_rowRecords raw).filter (fun f r => decide (r.tag ∈ f.tags)) ?_ ?_ k
  · exact fun f v r hr => decide_eq_true (f.form.tag_mem_tags f.tag v r hr)
  · refine s.tags_apart.imp fun {f g} hapart => ?_
    have hdisjoint : ∀ tag, tag ∈ f.tags → tag ∉ g.tags := by
      intro tag hf hg
      rcases hapart with ⟨_, hbefore⟩ | ⟨_, hbefore⟩
      · exact Nat.lt_irrefl _ (hbefore _ hf _ hg)
      · exact Nat.lt_irrefl _ (hbefore _ hg _ hf)
    exact ⟨fun v r hr => decide_eq_false fun hf =>
        hdisjoint _ hf (g.form.tag_mem_tags g.tag v r hr),
      fun v r hr => decide_eq_false (hdisjoint _ (f.form.tag_mem_tags f.tag v r hr))⟩

end RadioFrame
