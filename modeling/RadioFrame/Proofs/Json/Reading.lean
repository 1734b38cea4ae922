import RadioFrame.Proofs.Json.Spelling

/-!
Readers on the tokens of written values.

`Reads r v a` says that a reader takes the tokens of a value from the front and makes `a` of them,
whatever follows: it makes `a` of the value as a document (`reads_iff_yields`). It holds of every
reader on the values that are written for it:

* simple values: `reads_number`, `reads_text`, `reads_list`, `reads_array`;
* variants: `reads_bare`, `reads_tagged`, as long as no two of them have one name;
* records: `reads_record`, as long as no two fields have one name. A field that may be absent is
  either read or has its absent value (`Tells`). The members that are written spell the record
  (`spelledRecord_membersOf`).
-/

namespace RadioFrame.Json.Reader

/-- A reader makes `a` of the tokens of a value, and leaves those that follow. -/
def Reads {α : Type} (r : Reader α) (v : Value) (a : α) : Prop :=
  ∀ rest, r (v.tokens ++ rest) = .ok (a, rest)

/-- A written value is read as its document is. -/
lemma reads_iff_yields {α : Type} {r : Reader α} {v : Value} {a : α} :
    Reads r v a ↔ Yields r (.ofValue v) a := by
  rw [Reads, Yields, Document.tokens_ofValue]

/-! ### Simple values -/

section Simple

variable {α : Type}

lemma reads_number {accept : Int → Option α} {n : Int} {a : α} (expected : String)
    (hlow : -0x8000000000000000 ≤ n) (hhigh : n < UInt64.size) (h : accept n = some a) :
    Reads (number accept expected) (.number n) a := by
  intro rest
  simp [Value.tokens, number, Numeral.value?_ofInt hlow hhigh, h]

lemma reads_bool (b : Bool) : Reads bool (.bool b) b := fun _ => rfl

lemma reads_text {accept : String → Except Complaint α} {s : String} {a : α} (expected : String)
    (h : accept s = .ok a) : Reads (text accept expected) (.text s) a :=
  reads_iff_yields.mpr (yields_text expected h)

lemma Reads.nullable {r : Reader α} {v : Value} {a : α} (h : Reads r v a) (hv : v ≠ .null) :
    Reads (nullable r) v (some a) := by
  have hdocument : Document.ofValue v ≠ .null := by
    cases v with
    | null => exact absurd rfl hv
    | bool | number | text | array | object => exact nofun
  exact reads_iff_yields.mpr ((reads_iff_yields.mp h).nullable hdocument)

end Simple

/-! ### Arrays -/

section Arrays

variable {α : Type}

/-- Before an element there is nothing to complain about. -/
lemma nextElement_tokens (isFirst : Bool) (v : Value) (rest : List Token) :
    nextElement isFirst (separator isFirst ++ v.tokens ++ rest) =
      .ok (some (v.tokens ++ rest)) := by
  rw [← Document.tokens_ofValue, List.append_assoc]
  exact nextElement_document isFirst (.ofValue v) rest

variable {r : Reader α} {toJson : α → Value}

/-- A list of any length. -/
lemma reads_list (h : ∀ a, Reads r (toJson a) a) (as : List α) :
    Reads (list r) (.ofElements (as.map toJson)) as := by
  rw [reads_iff_yields, Document.ofValue_ofElements, List.map_map]
  refine yields_list ?_
  rw [List.forall₂_map_left_iff, List.forall₂_same]
  exact fun a _ => reads_iff_yields.mp (h a)

lemma elementsExactly_tokens (h : ∀ a, Reads r (toJson a) a) (expected : String) (as : List α)
    (before : Nat) (rest : List Token) :
    elementsExactly r expected as.length before
        ((Elements.ofList (as.map toJson)).tokens (before = 0) ++ rest) = .ok (as, rest) := by
  induction as generalizing before with
  | nil => rfl
  | cons a as ih =>
      have hnext := ih (before + 1)
      simp only [Nat.add_one_ne_zero, decide_false] at hnext
      simp only [List.map_cons, Elements.ofList, Elements.tokens, List.length_cons]
      rw [elementsExactly, List.append_assoc _ _ rest, nextElement_tokens, ok_bind]
      simp only [h a _, ok_bind, hnext]

/-- As many elements as are asked for. -/
lemma reads_array (h : ∀ a, Reads r (toJson a) a) {length : Nat} {as : List α}
    (hlength : as.length = length) : Reads (array r length) (.ofElements (as.map toJson)) as := by
  intro rest
  subst hlength
  have helements (expected : String) :=
    elementsExactly_tokens h expected as 0 (.rightBracket :: rest)
  simp only [decide_true] at helements
  simp only [Value.ofElements, Value.tokens, List.cons_append, List.append_assoc,
    List.nil_append, array, helements]
  rfl

end Arrays

/-! ### Variants -/

section Variants

variable {ι α : Type} {name : ι → String} {is : List ι} {content : Fin is.length → Carried α}

/-- A variant that carries nothing is read from its name. -/
lemma reads_bare (h : (is.map name).Nodup) {k : Fin is.length} {a : α}
    (hk : content k = .nothing a) : Reads (variant name is content) (.text (name (is.get k))) a :=
  reads_iff_yields.mpr (yields_bare h hk)

/-- A variant that carries something is read from an object whose only key is its name. -/
lemma reads_tagged (h : (is.map name).Nodup) {k : Fin is.length} {r : Reader α} {v : Value} {a : α}
    (hk : content k = .value r ∨ content k = .record r) (hr : Reads r v a) :
    Reads (variant name is content) (.tagged (name (is.get k)) v) a :=
  reads_iff_yields.mpr (yields_tagged h hk (reads_iff_yields.mp hr))

end Variants

/-! ### Records -/

section Records

variable {ι : Type} {V : ι → Type} {field : ∀ i, RecordField (V i)}

/-- The members of a record: those of the fields that have one, in order. What they are made from
may be of another type than what the fields are read as. -/
def membersOf {D : ι → Type} (field : ∀ i, RecordField (V i)) (json : ∀ i, D i → Option Value)
    {is : List ι} (row : Row D is) : List (String × Value) :=
  (row.toList fun i v => (json i v).map fun j => ((field i).name, j)).filterMap id

/-- If every field has a member, all are there. -/
lemma membersOf_some {D : ι → Type} (json : ∀ i, D i → Value) (row : Row D is) :
    membersOf field (fun i v => some (json i v)) row =
      row.toList fun i v => ((field i).name, json i v) := by
  have hsome := Row.map_toList (β := Option (String × Value)) some
    (fun i v => ((field i).name, json i v)) row
  simp only [membersOf, Option.map_some]
  rw [← hsome, List.filterMap_map]
  exact List.filterMap_some

lemma membersOf_cons {D : ι → Type} {json : ∀ i, D i → Option Value} (v : D i) (row : Row D is) :
    @membersOf ι V D field json (i :: is) (v, row) =
      ((json i v).map fun j => ((field i).name, j)).toList ++ membersOf field json row := by
  cases hj : json i v <;> simp [membersOf, Row.toList, hj]

variable {spelled : ∀ i, V i → Document → Prop} {absent : ∀ i, V i → Prop}
  {json : ∀ i, V i → Option Value}

/-- A member of another name may stand before those of a record. -/
lemma SpelledByName.cons {name : ι → String} {m : String × Document}
    {ms : List (String × Document)} :
    ∀ {is : List ι} {row : Row V is}, m.1 ∉ is.map name →
      SpelledByName name spelled absent row ms → SpelledByName name spelled absent row (m :: ms)
  | [], (), _, _ => trivial
  | i :: is, (v, row), hm, ⟨hv, hrow⟩ => by
      obtain ⟨hfirst, hothers⟩ := not_or.mp (fun hmem => hm (List.mem_cons.mpr hmem))
      refine ⟨?_, SpelledByName.cons hothers hrow⟩
      rwa [List.filter_cons_of_neg (by simpa using hfirst)]

/-- The written members of a record go by the names of its fields. -/
lemma name_mem_of_membersOf {is : List ι} {row : Row V is} {m : String × Value}
    (h : m ∈ membersOf field json row) : m.1 ∈ is.map fun i => (field i).name := by
  obtain ⟨m', hm', hm⟩ := List.mem_filterMap.mp h
  obtain ⟨i, hi, v, rfl⟩ := Row.mem_toList hm'
  obtain ⟨j, -, rfl⟩ := Option.map_eq_some_iff.mp hm
  exact List.mem_map.mpr ⟨i, hi, rfl⟩

/-- What is written of a record spells it by name. -/
lemma spelledByName_membersOf : ∀ {is : List ι}, (is.map fun i => (field i).name).Nodup →
    (∀ i ∈ is, ∀ v, (∀ j, json i v = some j → spelled i v (.ofValue j)) ∧
      (json i v = none → absent i v)) → ∀ row : Row V is,
      SpelledByName (fun i => (field i).name) spelled absent row
        ((membersOf field json row).map fun m => (m.1, .ofValue m.2))
  | [], _, _, () => trivial
  | i :: is, hnames, hspelled, (v, row) => by
      obtain ⟨hname, hnames⟩ := List.nodup_cons.mp hnames
      obtain ⟨hfirst, hspelled⟩ := List.forall_mem_cons.mp hspelled
      have hrow := spelledByName_membersOf hnames hspelled row
      have hothers : ((membersOf field json row).map fun m => (m.1, Document.ofValue m.2)).filter
          (fun m => m.1 = (field i).name) = [] := by
        refine List.filter_eq_nil_iff.mpr fun m' hm' heq => hname ?_
        obtain ⟨m, hm, rfl⟩ := List.mem_map.mp hm'
        have hmem := name_mem_of_membersOf hm
        rwa [show m.1 = (field i).name from of_decide_eq_true heq] at hmem
      rw [membersOf_cons]
      cases hj : json i v with
      | none => exact ⟨.inr ⟨hothers, (hfirst v).2 hj⟩, hrow⟩
      | some j =>
          refine ⟨.inl ⟨.ofValue j, ?_, (hfirst v).1 j hj⟩, SpelledByName.cons hname hrow⟩
          rw [Option.map_some, Option.toList_some, List.singleton_append, List.map_cons,
            List.filter_cons_of_pos (by simp), hothers]

/-- What is written of a record is one of its spellings. -/
theorem spelledRecord_membersOf {is : List ι} (hnames : (is.map fun i => (field i).name).Nodup)
    (hspelled : ∀ i ∈ is, ∀ v, (∀ j, json i v = some j → spelled i v (.ofValue j)) ∧
      (json i v = none → absent i v)) (row : Row V is) :
    SpelledRecord (fun i => (field i).name) spelled absent row
      (.ofValue (.ofMembers (membersOf field json row))) :=
  .inl ⟨_, Document.ofValue_ofMembers _, spelledByName_membersOf hnames hspelled row⟩

/-- A field is told by its member, or by having none. -/
def Tells {α : Type} (f : RecordField α) (member : Option Value) (a : α) : Prop :=
  match member with
  | some v => Reads f.read v a
  | none => f.absent = some a

/-- A record is read from an object of its members. -/
theorem reads_record {is : List ι} (title : String)
    (hnames : (is.map fun i => (field i).name).Nodup)
    (htells : ∀ i ∈ is, ∀ v, Tells (field i) (json i v) v) (row : Row V is) :
    Reads (record field title is) (.ofMembers (membersOf field json row)) row := by
  have hread : ∀ i ∈ is, ∀ v d, (∃ j, json i v = some j ∧ d = .ofValue j) →
      Yields (field i).read d v := by
    rintro i hi v _ ⟨j, hj, rfl⟩
    have hv := htells i hi v
    rw [hj] at hv
    exact reads_iff_yields.mp hv
  have habsent : ∀ i ∈ is, ∀ v, json i v = none → (field i).absent = some v := by
    intro i hi v hj
    have hv := htells i hi v
    rwa [hj] at hv
  have hrow : SpelledRecord (fun i => (field i).name)
      (fun i v d => ∃ j, json i v = some j ∧ d = .ofValue j) (fun i v => json i v = none) row
      (.ofValue (.ofMembers (membersOf field json row))) :=
    spelledRecord_membersOf hnames (fun i _ v => ⟨fun j hj => ⟨j, hj, rfl⟩, id⟩) row
  exact reads_iff_yields.mpr (yields_record title hnames hread habsent hrow)

end Records

/-! ### Whole texts -/

/-- A written value is read as what its tokens are read as. -/
lemma Reads.run_render {α : Type} {r : Reader α} {v : Value} {a : α} (h : Reads r v a)
    (layout : Layout) : r.run (v.render layout) = .ok a := by
  have htokens := h []
  rw [List.append_nil] at htokens
  rw [run, scan_render, htokens]

end RadioFrame.Json.Reader
