import RadioFrame.Proofs.Json.Reading
import RadioFrame.Proofs.Schema.Text
import RadioFrame.Proofs.Wire.Record

/-!
Readers that refuse the tokens of written values.

`Refuses r v fault` says that a reader tells a fault of the tokens of a value, whatever follows. A
part that is refused makes the whole refused, as long as what stands before it is read: in variants
(`refuses_tagged`), lists (`refuses_list`), blocks (`exists_refuses_block`) and records
(`refuses_record`).

A reader and a check agree on a value that is written down (`Agrees`), if they accept it together,
as a value whose own text it is, or refuse it together. Checks that agree with the readers of the
fields agree with the reader of the record (`agrees_record`).
-/

namespace RadioFrame.Json.Reader

open Wire (Leads)

/-- A reader tells a fault of the tokens of a value. -/
def Refuses {α : Type} (r : Reader α) (v : Value) (fault : Fault) : Prop :=
  ∀ rest, r (v.tokens ++ rest) = .error fault

/-! ### Simple values -/

section Simple

variable {α β : Type} {r : Reader α} {v : Value} {fault : Fault}

lemma refuses_text {accept : String → Except Complaint α} {s : String} {c : Complaint}
    (expected : String) (h : accept s = .error c) :
    Refuses (text accept expected) (.text s) (.complaint c) := by
  intro rest
  simp [Value.tokens, text, h, complain]

lemma Refuses.nullable (h : Refuses r v fault) (hv : v ≠ .null) : Refuses (nullable r) v fault := by
  intro rest
  have hr := h rest
  cases v with
  | null => exact absurd rfl hv
  | bool | number | text | array | object =>
      simp only [Value.tokens, List.cons_append, Reader.nullable] at hr ⊢
      rw [hr, error_bind]

lemma Refuses.andThen (h : Refuses r v fault) (f : α → Except Complaint β) :
    Refuses (r.andThen f) v fault := by
  intro rest
  rw [Reader.andThen, h rest, error_bind]

/-- What is read may still be refused by what is made of it. -/
lemma Reads.refuses_andThen {a : α} (h : Reads r v a) {f : α → Except Complaint β} {c : Complaint}
    (hf : f a = .error c) : Refuses (r.andThen f) v (.complaint c) := by
  intro rest
  simp only [Reader.andThen, h rest, ok_bind, hf, complain]

end Simple

/-! ### Arrays -/

section Arrays

variable {α : Type} {r : Reader α} {v : Value} {fault : Fault}

lemma elements_refused {before : List Value} {as : List α}
    (hbefore : List.Forall₂ (Reads r) before as) (h : Refuses r v fault) (after : List Value)
    (fuel : Nat) (hfuel : before.length < fuel) (isFirst : Bool) (rest : List Token) :
    elements r fuel isFirst
        ((Elements.ofList (before ++ v :: after)).tokens isFirst ++ rest) = .error fault := by
  induction hbefore generalizing fuel isFirst with
  | nil =>
      cases fuel with
      | zero => omega
      | succ fuel =>
          rw [List.nil_append, Elements.ofList, Elements.tokens, elements, List.append_assoc,
            nextElement_tokens, ok_bind]
          dsimp only
          rw [h, error_bind]
  | @cons w a ws as hw _ ih =>
      cases fuel with
      | zero => omega
      | succ fuel =>
          have hnext := ih fuel (by rw [List.length_cons] at hfuel; omega) false
          rw [List.cons_append, Elements.ofList, Elements.tokens, elements, List.append_assoc,
            nextElement_tokens, ok_bind]
          dsimp only
          rw [hw, ok_bind]
          dsimp only
          rw [hnext, error_bind]

lemma length_le_length_tokens (vs : List Value) (isFirst : Bool) :
    vs.length ≤ ((Elements.ofList vs).tokens isFirst).length := by
  have hle := length_le_elementTokens (Document.ofElements (.ofList vs)) isFirst
  rwa [Document.tokens_ofElements, Document.ofElements_ofList, List.length_map] at hle

/-- A list is refused for its first element that is. -/
lemma refuses_list {before : List Value} {as : List α}
    (hbefore : List.Forall₂ (Reads r) before as) (h : Refuses r v fault) (after : List Value) :
    Refuses (list r) (.ofElements (before ++ v :: after)) fault := by
  intro rest
  have hlength := length_le_length_tokens (before ++ v :: after) true
  rw [List.length_append, List.length_cons] at hlength
  rw [Value.ofElements, Value.tokens, List.cons_append, List.cons_append, List.append_assoc, list]
  rw [elements_refused hbefore h after _ (by rw [List.length_append]; omega), error_bind]

/-- An array that has not as many elements as it should have ends too early or too late. -/
lemma exists_refused_array {toJson : α → Value} (h : ∀ a, Reads r (toJson a) a) (expected : String)
    {β : Type} (as : List α) : ∀ (count before : Nat) (g : List α → β), as.length ≠ count →
      ∃ fault, ∀ rest, (elementsExactly r expected count before
        ((Elements.ofList (as.map toJson)).tokens (before = 0) ++ .rightBracket :: rest) >>=
          fun p => closeArray (g p.1) p.2) = .error fault := by
  induction as with
  | nil =>
      intro count before g hlength
      cases count with
      | zero => exact absurd rfl hlength
      | succ count => exact ⟨_, fun rest => rfl⟩
  | cons a as ih =>
      intro count before g hlength
      cases count with
      | zero =>
          refine ⟨.malformed, fun rest => ?_⟩
          obtain ⟨t, ts, hts, ht⟩ := (Document.ofValue (toJson a)).exists_tokens
          rw [Document.tokens_ofValue] at hts
          rw [elementsExactly, ok_bind, List.map_cons, Elements.ofList, Elements.tokens, hts]
          cases before with
          | zero => simp [separator, closeArray, ht]
          | succ before => simp [separator, closeArray]
      | succ count =>
          obtain ⟨fault, hfault⟩ := ih count (before + 1) (fun as => g (a :: as))
            (fun heq => hlength (by rw [List.length_cons, heq]))
          refine ⟨fault, fun rest => ?_⟩
          have hnext := hfault rest
          simp only [Nat.add_one_ne_zero, decide_false] at hnext
          rw [List.map_cons, Elements.ofList, Elements.tokens, elementsExactly, List.append_assoc,
            nextElement_tokens, ok_bind]
          dsimp only
          rw [h, ok_bind]
          dsimp only
          rw [bind_assoc]
          exact hnext

/-- Bytes that are not as many as a block has are refused. -/
lemma exists_refuses_block {length : Nat} {bytes : Bytes} (h : bytes.length ≠ length) :
    ∃ fault, Refuses (block length) (.ofBytes bytes) fault := by
  obtain ⟨fault, hfault⟩ := exists_refused_array reads_byte s!"an array of length {length}" bytes
    length 0 id h
  refine ⟨fault, fun rest => ?_⟩
  have harray := hfault rest
  rw [decide_eq_true rfl] at harray
  have hrefused : array byte length ((Value.ofBytes bytes).tokens ++ rest) = .error fault := by
    rw [Value.ofBytes, Value.ofElements, Value.tokens, List.cons_append, List.cons_append,
      List.append_assoc, array]
    exact harray
  rw [block, hrefused, error_bind]

end Arrays

/-! ### Variants -/

/-- What a variant carries is refused with the variant. -/
lemma refuses_tagged {ι α : Type} {name : ι → String} {is : List ι}
    {content : Fin is.length → Carried α} (h : (is.map name).Nodup) {k : Fin is.length}
    {r : Reader α} {v : Value} {fault : Fault} (hk : content k = .value r ∨ content k = .record r)
    (hr : Refuses r v fault) :
    Refuses (variant name is content) (.tagged (name (is.get k)) v) fault := by
  intro rest
  have htokens : (Value.tagged (name (is.get k)) v).tokens =
      (Document.tagged (name (is.get k)) (.ofValue v)).tokens := by
    rw [← Document.tokens_ofValue]
    rfl
  rw [htokens, variant_tagged h hk, Document.tokens_ofValue, hr, error_bind]

/-! ### Records -/

section Records

variable {ι : Type} {V D : ι → Type} {field : ∀ i, RecordField (V i)} {i : ι} {is : List ι}
  {row row' : Row (fun i => Option (V i)) is} {member : String × Value} {fault : Fault}

/-- A member is taken into what was read of a record before. -/
def TakesMember (field : ∀ i, RecordField (V i)) (is : List ι)
    (row : Row (fun i => Option (V i)) is) (member : String × Value)
    (row' : Row (fun i => Option (V i)) is) : Prop :=
  ∃ next, member? field member.1 is row = some next ∧
    ∀ rest, next (.colon :: member.2.tokens ++ rest) = .ok (row', rest)

/-- The first field takes the member of its name, if it had none before. -/
lemma TakesMember.first {v : Value} {a : V i} (h : Reads (field i).read v a) :
    TakesMember field (i :: is) (none, row) ((field i).name, v) (some a, row) := by
  refine ⟨_, by rw [member?, if_pos rfl], fun rest => ?_⟩
  simp only [List.cons_append, colon, ok_bind, h _]

/-- A member that changes something has the name of a field. -/
lemma name_mem_of_member? {name : String} {is : List ι}
    {row : Row (fun i => Option (V i)) is} (h : (member? field name is row).isSome) :
    name ∈ is.map fun i => (field i).name := by
  induction is with
  | nil => simp [member?] at h
  | cons i is ih =>
      obtain ⟨v, row⟩ := row
      rw [member?] at h
      split at h
      · next heq => simp [heq]
      · exact List.mem_cons_of_mem _ (ih (by simpa using h))

lemma TakesMember.name_mem (h : TakesMember field is row member row') :
    member.1 ∈ is.map fun i => (field i).name := by
  obtain ⟨next, hnext, -⟩ := h
  exact name_mem_of_member? (by rw [hnext]; rfl)

/-- What the other fields take leaves the first as it is, if none of them has its name. -/
lemma TakesMember.others {w : Option (V i)}
    (hname : (field i).name ∉ is.map fun i => (field i).name)
    (h : TakesMember field is row member row') :
    TakesMember field (i :: is) (w, row) member (w, row') := by
  have hne : (field i).name ≠ member.1 := fun heq => hname (by rw [heq]; exact h.name_mem)
  obtain ⟨next, hnext, hread⟩ := h
  refine ⟨_, by rw [member?, if_neg hne, hnext, Option.map_some], fun rest => ?_⟩
  simp only [hread, ok_bind]

/-- A member is refused where some of a record was read before. -/
def RefusesMember (field : ∀ i, RecordField (V i)) (is : List ι)
    (row : Row (fun i => Option (V i)) is) (member : String × Value) (fault : Fault) : Prop :=
  ∃ next, member? field member.1 is row = some next ∧
    ∀ rest, next (.colon :: member.2.tokens ++ rest) = .error fault

lemma RefusesMember.first {v : Value} (h : Refuses (field i).read v fault) :
    RefusesMember field (i :: is) (none, row) ((field i).name, v) fault := by
  refine ⟨_, by rw [member?, if_pos rfl], fun rest => ?_⟩
  simp only [List.cons_append, colon, ok_bind, h _, error_bind]

lemma RefusesMember.others {w : Option (V i)}
    (hname : (field i).name ∉ is.map fun i => (field i).name)
    (h : RefusesMember field is row member fault) :
    RefusesMember field (i :: is) (w, row) member fault := by
  obtain ⟨next, hnext, hread⟩ := h
  have hne : (field i).name ≠ member.1 := fun heq =>
    hname (by rw [heq]; exact name_mem_of_member? (by rw [hnext]; rfl))
  refine ⟨_, by rw [member?, if_neg hne, hnext, Option.map_some], fun rest => ?_⟩
  simp only [hread, error_bind]

lemma length_le_length_membersTokens (ms : List (String × Value)) (isFirst : Bool) :
    ms.length ≤ ((Members.ofList ms).tokens isFirst).length := by
  have hle := length_le_entryTokens (Document.ofEntries (.ofList ms)) isFirst
  rwa [Document.tokens_ofEntries, Document.ofEntries_ofList, List.length_map] at hle

/-- An object is refused for its first member that is. -/
lemma members_refused {before : List (String × Value)}
    (hbefore : Leads (TakesMember field is) row before row')
    (h : RefusesMember field is row' member fault) (after : List (String × Value)) (fuel : Nat)
    (hfuel : before.length < fuel) (isFirst : Bool) (rest : List Token) :
    members field is fuel isFirst row
        ((Members.ofList (before ++ member :: after)).tokens isFirst ++ rest) = .error fault := by
  have hkey (name : String) (isFirst : Bool) (tokens : List Token) :
      nextKey isFirst (separator isFirst ++ .text (some name) :: tokens) =
        .ok (some (.text (some name) :: tokens)) := by
    cases isFirst <;> rfl
  induction hbefore generalizing fuel isFirst with
  | nil row =>
      obtain ⟨name, v⟩ := member
      obtain ⟨next, hnext, hread⟩ := h
      cases fuel with
      | zero => omega
      | succ fuel =>
          have hrefused := hread ((Members.ofList after).tokens false ++ rest)
          simp only [List.cons_append] at hrefused
          simp only [List.nil_append, Members.ofList, Members.tokens, List.append_assoc,
            List.cons_append]
          rw [members, hkey, ok_bind]
          dsimp only
          rw [hnext]
          dsimp only
          rw [hrefused, error_bind]
  | @cons row middle row' first before hfirst _ ih =>
      obtain ⟨name, v⟩ := first
      obtain ⟨next, hnext, hread⟩ := hfirst
      cases fuel with
      | zero => omega
      | succ fuel =>
          have hothers := ih h fuel (by rw [List.length_cons] at hfuel; omega) false
          have htaken := hread ((Members.ofList (before ++ member :: after)).tokens false ++ rest)
          simp only [List.cons_append] at htaken
          simp only [List.cons_append, Members.ofList, Members.tokens, List.append_assoc]
          rw [members, hkey, ok_bind]
          dsimp only
          rw [hnext]
          dsimp only
          rw [htaken, ok_bind]
          exact hothers

/-- A record is refused for its first member that is. -/
lemma refuses_record (title : String) {before after : List (String × Value)}
    (hbefore : Leads (TakesMember field is) (Row.ofFn (fun _ => none) is) before row)
    (h : RefusesMember field is row member fault) :
    Refuses (record field title is) (.ofMembers (before ++ member :: after)) fault := by
  intro rest
  have hlength := length_le_length_membersTokens (before ++ member :: after) true
  rw [List.length_append, List.length_cons] at hlength
  simp only [Value.ofMembers, Value.tokens, List.cons_append, List.append_assoc, record]
  rw [members_refused hbefore h after _ (by rw [List.length_append]; omega), error_bind]

end Records

/-! ### Agreement -/

section Agreement

variable {ε α : Type} {x : Except ε α} {r : Reader α} {v : Value} {toJson : α → Value}

/-- A check and a reader agree on a value that is written down: both accept it, as one whose own
text it is, or both refuse it. -/
def Agrees (x : Except ε α) (r : Reader α) (v : Value) (toJson : α → Value) : Prop :=
  (∃ a, x = .ok a ∧ v = toJson a) ∨ ∃ e fault, x = .error e ∧ Refuses r v fault

/-- The same of a field, which may have no member. -/
def FieldAgrees (x : Except ε α) (r : Reader α) (member : Option Value) (json : α → Option Value) :
    Prop :=
  (∃ a, x = .ok a ∧ member = json a) ∨
    ∃ e v fault, x = .error e ∧ member = some v ∧ Refuses r v fault

lemma Agrees.mapError {ε' : Type} (h : Agrees x r v toJson) (f : ε → ε') :
    Agrees (x.mapError f) r v toJson := by
  rcases h with ⟨a, rfl, hv⟩ | ⟨e, fault, rfl, hrefuses⟩
  · exact .inl ⟨a, rfl, hv⟩
  · exact .inr ⟨f e, fault, rfl, hrefuses⟩

/-- What is made of an accepted value may be refused as well, by both. -/
lemma Agrees.andThen {β : Type} {f : α → Except ε β} {g : α → Except Complaint β}
    (h : Agrees x r v toJson) (toJson' : β → Value) (hreads : ∀ a, Reads r (toJson a) a)
    (hlast : ∀ a, (∃ b, f a = .ok b ∧ toJson a = toJson' b) ∨
      ∃ e c, f a = .error e ∧ g a = .error c) :
    Agrees (x >>= f) (r.andThen g) v toJson' := by
  rcases h with ⟨a, rfl, rfl⟩ | ⟨e, fault, rfl, hrefuses⟩
  · rcases hlast a with ⟨b, hb, hv⟩ | ⟨e, c, he, hc⟩
    · exact .inl ⟨b, hb, hv⟩
    · exact .inr ⟨e, .complaint c, he, (hreads a).refuses_andThen hc⟩
  · exact .inr ⟨e, fault, rfl, hrefuses.andThen g⟩

/-- A field that is always there agrees if its value does. -/
lemma Agrees.member (h : Agrees x r v toJson) :
    FieldAgrees x r (some v) fun a => some (toJson a) := by
  rcases h with ⟨a, ha, rfl⟩ | ⟨e, fault, he, hrefuses⟩
  · exact .inl ⟨a, ha, rfl⟩
  · exact .inr ⟨e, v, fault, he, rfl, hrefuses⟩

end Agreement

/-! ### Agreement on what is put together

What is written down is a draft; `raw` is what is checked of it. -/

section Composite

variable {ε α δ ρ : Type} {check : ρ → Except ε α} {raw : δ → ρ} {r : Reader α} {draft : δ → Value}
  {toJson : α → Value}

/-- A field that may be absent agrees if its value does when it is there. -/
lemma agrees_optional (hagree : ∀ d, Agrees (check (raw d)) r (draft d) toJson)
    (hnull : ∀ d, draft d ≠ .null) (d : Option δ) :
    FieldAgrees (tryOption check (d.map raw)) (nullable r) (d.map draft) fun a => a.map toJson := by
  cases d with
  | none => exact .inl ⟨none, rfl, rfl⟩
  | some d =>
      rw [Option.map_some, tryOption]
      rcases hagree d with ⟨a, ha, hv⟩ | ⟨e, fault, he, hrefuses⟩
      · exact .inl ⟨some a, by rw [ha, ok_bind], by rw [Option.map_some, hv]; rfl⟩
      · exact .inr ⟨e, draft d, fault, by rw [he, error_bind], rfl, hrefuses.nullable (hnull d)⟩

/-- The elements of a list are those of an accepted one, or one of them is refused behind elements
that are read. -/
lemma agrees_elements (hagree : ∀ d, Agrees (check (raw d)) r (draft d) toJson)
    (hreads : ∀ a, Reads r (toJson a) a) : ∀ ds : List δ,
      (∃ as, tryEach check (ds.map raw) = .ok as ∧ ds.map draft = as.map toJson) ∨
        ∃ e before as v after fault, tryEach check (ds.map raw) = .error e ∧
          ds.map draft = before ++ v :: after ∧ List.Forall₂ (Reads r) before as ∧
          Refuses r v fault
  | [] => .inl ⟨[], rfl, rfl⟩
  | d :: ds => by
      rw [List.map_cons, List.map_cons, tryEach]
      rcases hagree d with ⟨a, ha, hv⟩ | ⟨e, fault, he, hrefuses⟩
      · rw [ha, ok_bind, hv]
        rcases agrees_elements hagree hreads ds with
          ⟨as, has, hvs⟩ | ⟨e, before, as, v, after, fault, he, hvs, hbefore, hrefuses⟩
        · exact .inl ⟨a :: as, by rw [has, ok_bind], by rw [hvs, List.map_cons]⟩
        · refine .inr ⟨e, toJson a :: before, a :: as, v, after, fault, ?_, ?_,
            .cons (hreads a) hbefore, hrefuses⟩
          · rw [he, error_bind]
          · rw [hvs, List.cons_append]
      · exact .inr ⟨e, [], [], draft d, ds.map draft, fault, by rw [he, error_bind], rfl, .nil,
          hrefuses⟩

/-- The reader of a list agrees with the check of its elements if their reader does. -/
theorem agrees_list (hagree : ∀ d, Agrees (check (raw d)) r (draft d) toJson)
    (hreads : ∀ a, Reads r (toJson a) a) (ds : List δ) :
    Agrees (tryEach check (ds.map raw)) (list r) (.ofElements (ds.map draft))
      fun as => .ofElements (as.map toJson) := by
  rcases agrees_elements hagree hreads ds with
    ⟨as, has, hvs⟩ | ⟨e, before, as, v, after, fault, he, hvs, hbefore, hrefuses⟩
  · exact .inl ⟨as, has, by rw [hvs]⟩
  · rw [hvs]
    exact .inr ⟨e, fault, he, refuses_list hbefore hrefuses after⟩

end Composite

section Rows

variable {ε ι : Type} {D R V : ι → Type} {field : ∀ i, RecordField (V i)} {raw : ∀ i, D i → R i}
  {check : ∀ i, R i → Except ε (V i)} {draft : ∀ i, D i → Option Value}
  {json : ∀ i, V i → Option Value}

/-- The members of a record are those of an accepted one, or one of them is refused behind members
that are taken. -/
lemma agrees_members : ∀ {is : List ι}, (is.map fun i => (field i).name).Nodup →
    (∀ i ∈ is, ∀ d, FieldAgrees (check i (raw i d)) (field i).read (draft i d) (json i)) →
    (∀ i ∈ is, ∀ v, Tells (field i) (json i v) v) → ∀ row : Row D is,
      (∃ accepted, (row.map raw).tryMap check = .ok accepted ∧
          membersOf field draft row = membersOf field json accepted) ∨
        ∃ e before member after taken fault, (row.map raw).tryMap check = .error e ∧
          membersOf field draft row = before ++ member :: after ∧
          Leads (TakesMember field is) (Row.ofFn (fun _ => none) is) before taken ∧
          RefusesMember field is taken member fault
  | [], _, _, _, () => .inl ⟨(), rfl, rfl⟩
  | i :: is, hnames, hagree, htells, (d, row) => by
      obtain ⟨hname, hnames⟩ := List.nodup_cons.mp hnames
      obtain ⟨hfirst, hagree⟩ := List.forall_mem_cons.mp hagree
      obtain ⟨htold, htells⟩ := List.forall_mem_cons.mp htells
      rw [membersOf_cons]
      rcases hfirst d with ⟨v, hv, hmember⟩ | ⟨e, v, fault, he, hmember, hrefuses⟩
      · rw [hmember]
        -- what the first field has, nothing or its member, stands while the others are read
        have hlift {w : Option (V i)} {before : List (String × Value)}
            {taken : Row (fun i => Option (V i)) is}
            (h : Leads (TakesMember field is) (Row.ofFn (fun _ => none) is) before taken) :
            Leads (TakesMember field (i :: is)) (w, Row.ofFn (fun _ => none) is) before
              (w, taken) := by
          have hothers := h.map (Q := TakesMember field (i :: is)) (Prod.mk w) id
            fun h => h.others hname
          rwa [List.map_id] at hothers
        rcases agrees_members hnames hagree htells row with
          ⟨accepted, haccepted, hmembers⟩ |
          ⟨e, before, member, after, taken, fault, he, hmembers, hleads, hrefuses⟩
        · refine .inl ⟨(v, accepted), ?_, ?_⟩
          · rw [Row.map, Row.tryMap, hv, haccepted]
            rfl
          · rw [membersOf_cons, hmembers]
        · refine .inr ⟨e, _, member, after, ((json i v).map fun _ => v, taken), fault, ?_,
            by rw [hmembers, ← List.append_assoc], ?_, hrefuses.others hname⟩
          · rw [Row.map, Row.tryMap, hv, he]
            rfl
          · have htellsFirst := htold v
            cases hj : json i v with
            | none => exact hlift hleads
            | some j =>
                rw [hj] at htellsFirst
                exact .cons (.first htellsFirst) (hlift hleads)
      · refine .inr ⟨e, [], ((field i).name, v), membersOf field draft row, _, fault, ?_, ?_,
          .nil _, .first hrefuses⟩
        · rw [Row.map, Row.tryMap, he]
          rfl
        · rw [hmember]
          rfl

/-- The reader of a record agrees with the checks of its fields if their readers do. -/
theorem agrees_record {is : List ι} (title : String)
    (hnames : (is.map fun i => (field i).name).Nodup)
    (hagree : ∀ i ∈ is, ∀ d, FieldAgrees (check i (raw i d)) (field i).read (draft i d) (json i))
    (htells : ∀ i ∈ is, ∀ v, Tells (field i) (json i v) v) (row : Row D is) :
    Agrees ((row.map raw).tryMap check) (record field title is)
      (.ofMembers (membersOf field draft row))
      fun accepted => .ofMembers (membersOf field json accepted) := by
  rcases agrees_members hnames hagree htells row with
    ⟨accepted, haccepted, hmembers⟩ |
    ⟨e, before, member, after, taken, fault, he, hmembers, hleads, hrefuses⟩
  · exact .inl ⟨accepted, haccepted, by rw [hmembers]⟩
  · rw [hmembers]
    exact .inr ⟨e, fault, he, refuses_record title hleads hrefuses⟩

end Rows

/-! ### Whole texts -/

/-- A written value is refused if its tokens are. -/
lemma Refuses.run_render {α : Type} {r : Reader α} {v : Value} {fault : Fault}
    (h : Refuses r v fault) (layout : Layout) : r.run (v.render layout) = .error fault := by
  have htokens := h []
  rw [List.append_nil] at htokens
  rw [run, scan_render, htokens]

end RadioFrame.Json.Reader
