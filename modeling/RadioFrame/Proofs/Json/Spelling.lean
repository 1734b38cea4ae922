import RadioFrame.Proofs.Json.Laying
import RadioFrame.Proofs.Outcome
import RadioFrame.Proofs.Place
import RadioFrame.Proofs.Row

/-!
Values in other spellings than the one in which they are written.

A document leaves freedom where a written value has one form, and readers take all of it
(`Yields`: a reader makes a value of a document, whatever follows):

* a word may stand alone or as the only name of an object that holds `null` (`yields_bare`,
  `yields_unit`);
* a record may be an object, whose members stand in any order and among others that are no fields
  (`SpelledByName`), or an array of its values, which ends where only absent ones are left
  (`SpelledInOrder`). Either way it is read as that record (`yields_record`).
-/

namespace RadioFrame.Json

/-! ### Spelled records -/

section Spelled

variable {ι : Type} {V : ι → Type} (name : ι → String) (spelled : ∀ i, V i → Document → Prop)
  (absent : ∀ i, V i → Prop)

/-- The values of a record in the order of its fields. At the end absent ones may be left out. -/
def SpelledInOrder : {is : List ι} → Row V is → List Document → Prop
  | [], (), ds => ds = []
  | i :: _, (v, row), [] => absent i v ∧ SpelledInOrder row []
  | i :: _, (v, row), d :: ds => spelled i v d ∧ SpelledInOrder row ds

/-- The members of a record, in any order and among any others: each field has one member of its
name, or is absent and has none. -/
def SpelledByName : {is : List ι} → Row V is → List (String × Document) → Prop
  | [], (), _ => True
  | i :: _, (v, row), ms =>
      ((∃ d, ms.filter (fun m => m.1 = name i) = [(name i, d)] ∧ spelled i v d) ∨
        ms.filter (fun m => m.1 = name i) = [] ∧ absent i v) ∧ SpelledByName row ms

/-- The ways of spelling a record. -/
def SpelledRecord {is : List ι} (row : Row V is) (d : Document) : Prop :=
  (∃ ms, d = .ofMembers ms ∧ SpelledByName name spelled absent row ms) ∨
    ∃ ds, d = .array ds ∧ SpelledInOrder spelled absent row ds

end Spelled

namespace Reader

/-- A reader makes `a` of a document, and leaves what follows. -/
def Yields {α : Type} (r : Reader α) (d : Document) (a : α) : Prop :=
  ∀ rest, r (d.tokens ++ rest) = .ok (a, rest)

/-! ### Simple values -/

section Simple

variable {α β : Type} {r : Reader α} {d : Document} {a : α}

lemma yields_text {accept : String → Except Complaint α} {s : String} (expected : String)
    (h : accept s = .ok a) : Yields (text accept expected) (.text (some s)) a := by
  intro rest
  simp [Document.tokens, text, h]

lemma yields_null : Yields (nullable r) .null none := fun _ => rfl

lemma Yields.nullable (h : Yields r d a) (hd : d ≠ .null) : Yields (nullable r) d (some a) := by
  intro rest
  have hr := h rest
  cases d with
  | null => exact absurd rfl hd
  | bool | number | text | array | object =>
      simp only [Document.tokens, List.cons_append, Reader.nullable] at hr ⊢
      rw [hr, ok_bind]

end Simple

/-! ### Arrays -/

/-- Before an element there is nothing to complain about. -/
lemma nextElement_document (isFirst : Bool) (d : Document) (rest : List Token) :
    nextElement isFirst (separator isFirst ++ (d.tokens ++ rest)) =
      .ok (some (d.tokens ++ rest)) := by
  obtain ⟨t, ts, hts, ht⟩ := d.exists_tokens
  rw [hts]
  cases isFirst <;> simp [separator, nextElement, ht]

section Arrays

variable {α : Type} {r : Reader α}

lemma length_le_elementTokens (ds : List Document) (isFirst : Bool) :
    ds.length ≤ (Document.elementTokens isFirst ds).length := by
  induction ds generalizing isFirst with
  | nil => exact Nat.zero_le _
  | cons d ds ih =>
      obtain ⟨t, ts, hts, -⟩ := d.exists_tokens
      have hothers := ih false
      simp only [Document.elementTokens, hts, List.length_append, List.length_cons]
      omega

lemma length_le_entryTokens (es : List (Option String × Document)) (isFirst : Bool) :
    es.length ≤ (Document.entryTokens isFirst es).length := by
  induction es generalizing isFirst with
  | nil => exact Nat.zero_le _
  | cons e es ih =>
      have hothers := ih false
      simp only [Document.entryTokens, List.length_append, List.length_cons]
      omega

lemma elements_documents {ds : List Document} {as : List α} (h : List.Forall₂ (Yields r) ds as)
    (fuel : Nat) (hfuel : ds.length ≤ fuel) (isFirst : Bool) (rest : List Token) :
    elements r fuel isFirst (Document.elementTokens isFirst ds ++ .rightBracket :: rest) =
      .ok (as, .rightBracket :: rest) := by
  induction h generalizing fuel isFirst with
  | nil => cases fuel <;> rfl
  | @cons d a ds as hd _ ih =>
      cases fuel with
      | zero => simp at hfuel
      | succ fuel =>
          have hothers := ih fuel (by simpa using hfuel) false
          rw [Document.elementTokens, elements, List.append_assoc, List.append_assoc,
            nextElement_document, ok_bind]
          simp only [hd _, ok_bind, hothers]

/-- A list of any length. -/
lemma yields_list {ds : List Document} {as : List α} (h : List.Forall₂ (Yields r) ds as) :
    Yields (list r) (.array ds) as := by
  intro rest
  have hfuel := length_le_elementTokens ds true
  simp only [Document.tokens, List.cons_append, List.append_assoc, List.nil_append, list]
  rw [elements_documents h _ (by rw [List.length_append]; omega)]
  rfl

end Arrays

/-! ### Variants -/

section Variants

variable {ι α : Type} {name : ι → String} {is : List ι} {content : Fin is.length → Carried α}
  {k : Fin is.length} {a : α}

/-- A name is found at its own place, if it has no other. -/
lemma identify_name (h : (is.map name).Nodup) (k : Fin is.length) :
    identify name is (name (is.get k)) = .ok k := by
  rw [identify, (findFinIdx?_eq_some_iff_of_nodup h).mpr rfl]

/-- A variant that carries something is read from an object whose only key is its name. -/
lemma variant_tagged (h : (is.map name).Nodup) {r : Reader α}
    (hk : content k = .value r ∨ content k = .record r) (d : Document) (rest : List Token) :
    variant name is content ((Document.tagged (name (is.get k)) d).tokens ++ rest) =
      r (d.tokens ++ .rightBrace :: rest) >>= fun (a, rest) => closeObject a rest := by
  have hcarried (tokens : List Token) : carried tokens (content k) = r tokens := by
    rcases hk with hk | hk <;> rw [hk, carried]
  simp only [Document.tagged, Document.tokens, Document.entryTokens, separator, if_true,
    List.cons_append, List.nil_append, List.append_nil, List.append_assoc, variant, identify_name h,
    ok_bind, colon, hcarried]

/-- A variant that carries nothing is read from its name. -/
lemma yields_bare (h : (is.map name).Nodup) (hk : content k = .nothing a) :
    Yields (variant name is content) (.text (some (name (is.get k)))) a := by
  intro rest
  simp only [Document.tokens, List.singleton_append, variant, identify_name h, ok_bind, hk, bare]

/-- A variant that carries nothing may be said to hold `null`. -/
lemma yields_unit (h : (is.map name).Nodup) (hk : content k = .nothing a) :
    Yields (variant name is content) (.tagged (name (is.get k)) .null) a := by
  intro rest
  simp only [Document.tagged, Document.tokens, Document.entryTokens, separator, if_true,
    List.cons_append, List.nil_append, variant, identify_name h, ok_bind, colon, hk, carried, unit,
    closeObject]

lemma yields_tagged (h : (is.map name).Nodup) {r : Reader α} {d : Document}
    (hk : content k = .value r ∨ content k = .record r) (hr : Yields r d a) :
    Yields (variant name is content) (.tagged (name (is.get k)) d) a := by
  intro rest
  rw [variant_tagged h hk, hr, ok_bind]
  rfl

end Variants

/-! ### Records -/

section Records

variable {ι : Type} {V : ι → Type} {field : ∀ i, RecordField (V i)}
  {spelled : ∀ i, V i → Document → Prop} {absent : ∀ i, V i → Prop}

/-- The values of an array are taken in order; behind them only absent ones are left. -/
lemma fieldsInOrder_spelled (expected : String) (rest : List Token) : ∀ {is : List ι},
    (∀ i ∈ is, ∀ v d, spelled i v d → Yields (field i).read d v) →
    (∀ i ∈ is, ∀ v, absent i v → (field i).absent = some v) →
    ∀ (row : Row V is) (ds : List Document) (before : Nat) (isFirst : Bool),
      SpelledInOrder spelled absent row ds →
      fieldsInOrder field expected is before isFirst
        (Document.elementTokens isFirst ds ++ .rightBracket :: rest) =
          .ok (row, .rightBracket :: rest)
  | [], _, _, (), ds, before, isFirst, h => by
      obtain rfl : ds = [] := h
      rfl
  | i :: is, hread, habsent, (v, row), [], before, isFirst, h => by
      obtain ⟨hv, hrow⟩ := h
      obtain ⟨-, hread⟩ := List.forall_mem_cons.mp hread
      obtain ⟨habsentFirst, habsent⟩ := List.forall_mem_cons.mp habsent
      have hothers := fieldsInOrder_spelled expected rest hread habsent row []
        (before + 1) isFirst hrow
      have hend : nextElement isFirst (Document.elementTokens isFirst [] ++ .rightBracket :: rest) =
          .ok none := rfl
      rw [fieldsInOrder, hend, ok_bind]
      dsimp only
      rw [habsentFirst v hv]
      dsimp only
      rw [hothers, ok_bind]
  | i :: is, hread, habsent, (v, row), d :: ds, before, isFirst, h => by
      obtain ⟨hv, hrow⟩ := h
      obtain ⟨hreadFirst, hread⟩ := List.forall_mem_cons.mp hread
      obtain ⟨-, habsent⟩ := List.forall_mem_cons.mp habsent
      have hothers := fieldsInOrder_spelled expected rest hread habsent row ds
        (before + 1) false hrow
      rw [Document.elementTokens, fieldsInOrder, List.append_assoc, List.append_assoc,
        nextElement_document, ok_bind]
      dsimp only
      rw [hreadFirst v d hv, ok_bind]
      dsimp only
      rw [hothers, ok_bind]

/-- What is read of a record once some members are. -/
def told (name : ι → String) (ms : List (String × Document)) :
    {is : List ι} → Row V is → Row (fun i => Option (V i)) is
  | [], () => ()
  | i :: _, (v, row) => (if name i ∈ ms.map (·.1) then some v else none, told name ms row)

lemma told_nil (name : ι → String) :
    ∀ {is : List ι} (row : Row V is), told name [] row = Row.ofFn (fun _ => none) is
  | [], () => rfl
  | _ :: _, (_, row) => congrArg (Prod.mk none) (told_nil name row)

/-- Another member is not counted among those of other names. -/
lemma mem_names_append {key : String} {ms : List (String × Document)} {m : String × Document}
    (h : key ≠ m.1) : key ∈ (ms ++ [m]).map (·.1) ↔ key ∈ ms.map (·.1) := by
  rw [List.map_append, List.mem_append]
  exact or_iff_left fun hmem => h (List.mem_singleton.mp hmem)

/-- A member that no field has the name of tells nothing. -/
lemma told_append {name : ι → String} {ms : List (String × Document)} {m : String × Document} :
    ∀ {is : List ι} (row : Row V is), m.1 ∉ is.map name →
      told name (ms ++ [m]) row = told name ms row
  | [], (), _ => rfl
  | i :: is, (v, row), h => by
      obtain ⟨hfirst, hothers⟩ := not_or.mp (fun hmem => h (List.mem_cons.mpr hmem))
      rw [told, told, told_append row hothers]
      exact congrArg (·, _) (if_congr (mem_names_append (Ne.symm hfirst)) rfl rfl)

/-- A field whose name a member has is told by that member and by no other. -/
lemma told_by_member {before after : List (String × Document)} {m : String × Document}
    {key : String} {P : Document → Prop} {Q : Prop} (hm : key = m.1)
    (h : (∃ d, (before ++ m :: after).filter (fun m => m.1 = key) = [(key, d)] ∧ P d) ∨
      (before ++ m :: after).filter (fun m => m.1 = key) = [] ∧ Q) :
    P m.2 ∧ key ∉ before.map (·.1) := by
  have hsplit : (before ++ m :: after).filter (fun m => m.1 = key) =
      before.filter (fun m => m.1 = key) ++ m :: after.filter (fun m => m.1 = key) := by
    rw [List.filter_append, List.filter_cons_of_pos]
    exact decide_eq_true hm.symm
  rw [hsplit] at h
  rcases h with ⟨d, hd, hP⟩ | ⟨hnone, -⟩
  · cases hbefore : before.filter fun m => m.1 = key with
    | nil =>
        rw [hbefore, List.nil_append] at hd
        refine ⟨by rwa [(List.cons.inj hd).1], fun hmem => ?_⟩
        obtain ⟨m', hm', hkey⟩ := List.mem_map.mp hmem
        exact List.filter_eq_nil_iff.mp hbefore m' hm' (decide_eq_true hkey)
    | cons m' ms => simp [hbefore] at hd
  · simp at hnone

/-- A member is taken by the field of its name, which no member told before, or it is passed over.
-/
lemma member?_spelled {before after : List (String × Document)} {m : String × Document} :
    ∀ {is : List ι}, (is.map fun i => (field i).name).Nodup →
      (∀ i ∈ is, ∀ v d, spelled i v d → Yields (field i).read d v) →
      ∀ row : Row V is,
        SpelledByName (fun i => (field i).name) spelled absent row (before ++ m :: after) →
        (m.1 ∉ is.map fun i => (field i).name) ∧
            member? field m.1 is (told (fun i => (field i).name) before row) = none ∨
          ∃ next, member? field m.1 is (told (fun i => (field i).name) before row) = some next ∧
            ∀ rest, next (.colon :: m.2.tokens ++ rest) =
              .ok (told (fun i => (field i).name) (before ++ [m]) row, rest)
  | [], _, _, (), _ => .inl ⟨List.not_mem_nil, rfl⟩
  | i :: is, hnames, hread, (v, row), h => by
      obtain ⟨hname, hnames⟩ := List.nodup_cons.mp hnames
      obtain ⟨hreadFirst, hread⟩ := List.forall_mem_cons.mp hread
      obtain ⟨hv, hrow⟩ := h
      by_cases hm : (field i).name = m.1
      · obtain ⟨hspelled, hfresh⟩ := told_by_member hm hv
        have hmem : (field i).name ∈ (before ++ [m]).map (·.1) := by simp [hm]
        have hsame : told (fun i => (field i).name) (before ++ [m]) row =
            told (fun i => (field i).name) before row := told_append row (by rwa [← hm])
        refine .inr ⟨_, by rw [told, if_neg hfresh, member?, if_pos hm], fun rest => ?_⟩
        simp only [List.cons_append, colon, ok_bind, hreadFirst v m.2 hspelled _, told, if_pos hmem,
          hsame]
      · have hmem : (field i).name ∈ (before ++ [m]).map (·.1) ↔
            (field i).name ∈ before.map (·.1) :=
          mem_names_append hm
        rcases member?_spelled hnames hread row hrow with ⟨hnotMem, hnone⟩ | ⟨next, hnext, htaken⟩
        · refine .inl ⟨fun hin => ?_, by rw [told, member?, if_neg hm, hnone, Option.map_none]⟩
          rcases List.mem_cons.mp hin with hin | hin
          · exact hm hin.symm
          · exact hnotMem hin
        · refine .inr ⟨_, by rw [told, member?, if_neg hm, hnext, Option.map_some], fun rest => ?_⟩
          simp only [htaken, ok_bind, told, hmem]

/-- The members of an object are taken or passed over, up to the brace that closes it. -/
lemma members_spelled {is : List ι} (hnames : (is.map fun i => (field i).name).Nodup)
    (hread : ∀ i ∈ is, ∀ v d, spelled i v d → Yields (field i).read d v) (row : Row V is)
    (rest : List Token) : ∀ (after before : List (String × Document)) (fuel : Nat) (isFirst : Bool),
      SpelledByName (fun i => (field i).name) spelled absent row (before ++ after) →
      after.length ≤ fuel →
      members field is fuel isFirst (told (fun i => (field i).name) before row)
        (Document.entryTokens isFirst (after.map fun m => (some m.1, m.2)) ++ .rightBrace :: rest) =
          .ok (told (fun i => (field i).name) (before ++ after) row, .rightBrace :: rest)
  | [], before, fuel, isFirst, h, hfuel => by
      rw [List.append_nil]
      cases fuel <;> rfl
  | (key, d) :: after, before, fuel, isFirst, h, hfuel => by
      cases fuel with
      | zero => simp at hfuel
      | succ fuel =>
          have hothers := members_spelled hnames hread row rest after (before ++ [(key, d)])
            fuel false (by rwa [List.append_assoc]) (by simpa using hfuel)
          have hkey (tokens : List Token) :
              nextKey isFirst (separator isFirst ++ .text (some key) :: tokens) =
                .ok (some (.text (some key) :: tokens)) := by
            cases isFirst <;> rfl
          rw [List.append_assoc, List.singleton_append] at hothers
          simp only [List.map_cons, Document.entryTokens, List.append_assoc, List.cons_append]
          rw [members, hkey, ok_bind]
          dsimp only
          rcases member?_spelled hnames hread row h with ⟨hnotMem, hnone⟩ | ⟨next, hnext, htaken⟩
          · rw [told_append row hnotMem] at hothers
            rw [hnone]
            dsimp only
            rw [colon, ok_bind, d.pass_tokens, ok_bind]
            exact hothers
          · have htaken := htaken
              (Document.entryTokens false (after.map fun m => (some m.1, m.2)) ++
              .rightBrace :: rest)
            simp only [List.cons_append] at htaken
            rw [hnext]
            dsimp only
            rw [htaken, ok_bind]
            exact hothers

/-- A record of which the members tell all fields but absent ones is complete. -/
lemma complete_told {ms : List (String × Document)} : ∀ {is : List ι},
    (∀ i ∈ is, ∀ v, absent i v → (field i).absent = some v) → ∀ row : Row V is,
      SpelledByName (fun i => (field i).name) spelled absent row ms →
      complete field is (told (fun i => (field i).name) ms row) = .ok row
  | [], _, (), _ => rfl
  | i :: is, habsent, (v, row), h => by
      obtain ⟨habsentFirst, habsent⟩ := List.forall_mem_cons.mp habsent
      obtain ⟨hv, hrow⟩ := h
      have hvalue : ((if (field i).name ∈ ms.map (·.1) then some v else none) <|>
          (field i).absent) =
          some v := by
        rcases hv with ⟨d, hd, -⟩ | ⟨-, hv⟩
        · have hmember : ((field i).name, d) ∈ ms.filter fun m => m.1 = (field i).name :=
            hd ▸ List.mem_cons_self
          rw [if_pos (List.mem_map.mpr ⟨_, (List.mem_filter.mp hmember).1, rfl⟩)]
          rfl
        · rw [habsentFirst v hv]
          split <;> rfl
      rw [told, complete, hvalue]
      dsimp only
      rw [complete_told habsent row hrow, ok_bind]

/-- However a record is spelled, it is read. -/
theorem yields_record {is : List ι} (title : String)
    (hnames : (is.map fun i => (field i).name).Nodup)
    (hread : ∀ i ∈ is, ∀ v d, spelled i v d → Yields (field i).read d v)
    (habsent : ∀ i ∈ is, ∀ v, absent i v → (field i).absent = some v)
    {row : Row V is} {d : Document}
    (h : SpelledRecord (fun i => (field i).name) spelled absent row d) :
    Yields (record field title is) d row := by
  intro rest
  rcases h with ⟨ms, rfl, hms⟩ | ⟨ds, rfl, hds⟩
  · have hfuel := length_le_entryTokens (ms.map fun m => (some m.1, m.2)) true
    rw [List.length_map] at hfuel
    simp only [Document.ofMembers, Document.tokens, List.cons_append, List.append_assoc,
      List.nil_append, record]
    rw [← told_nil (fun i => (field i).name) row, members_spelled hnames hread row rest ms [] _ true
      hms (by rw [List.length_append]; omega), ok_bind, List.nil_append]
    simp only [complete_told habsent row hms, ok_bind, closeObject]
  · simp only [Document.tokens, List.cons_append, List.append_assoc, List.nil_append, record]
    rw [fieldsInOrder_spelled _ rest hread habsent row ds 0 true hds]
    rfl

end Records

/-! ### Whole texts -/

/-- However a document is laid out, the text is read as what the document is read as. -/
lemma Yields.run_of_laid {α : Type} {r : Reader α} {d : Document} {a : α} (h : Yields r d a)
    {text : String} (hlaid : Laid d.tokens text.toList) : r.run text = .ok a := by
  have htokens := h []
  rw [List.append_nil] at htokens
  rw [run, scan_of_laid hlaid, htokens]

end Reader

end RadioFrame.Json
