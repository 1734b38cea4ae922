import RadioFrame.Proofs.Schema.Checking
import RadioFrame.Proofs.Schema.Gathering
import RadioFrame.Schema.Text

/-!
Fields that may be absent.

Whether such a field is there is told by its records alone (`Form.has_iff_of_gather`): one is
enough, and its value does not matter. What the field holds is what its records say (`Form.Says`):
the last simple value, the submessage that all of them make, and zero if there are none: the value
that zeros on the wire mean (`Datum.check_rawZero`, `Submessage.check_rawZero`). In text the field
has a member just when it is there (`Body.mem_members_iff`).

A setting (`Shape.Setting`) makes such a field present. After any sequence of settings
(`Body.setAll`) those fields are there that were before or were set, and hold what they were set to
last.
-/

namespace RadioFrame

open Wire (Record)

/-! ### What records say -/

/-- A submessage whose members all are zero on the wire is acceptable, and means that they are
zero. -/
lemma Submessage.check_rawZero (s : Submessage) :
    s.check (Row.ofFn (fun m => m.datum.rawZero) s.members) = .ok s.zero := by
  have hzero : s.toRaw s.zero = Row.ofFn (fun m => m.datum.rawZero) s.members := by
    rw [toRaw, zero, Row.map_ofFn]
    simp only [Datum.toRaw_zero]
  exact (s.exact _ _).mpr hzero

/-- The last of several values is what the last of the elements gave. -/
lemma exists_of_tryEach_concat {α β ε : Type} {f : α → Except ε β} {a : α} :
    ∀ {as : List α} {bs : List β}, tryEach f (as ++ [a]) = .ok bs →
      ∃ cs b, bs = cs ++ [b] ∧ f a = .ok b
  | [], bs, h => by
      obtain ⟨b, hb, hok⟩ := bind_eq_ok.mp h
      cases hok
      exact ⟨[], b, rfl, hb⟩
  | a' :: as, bs, h => by
      obtain ⟨b', _, hok⟩ := bind_eq_ok.mp h
      obtain ⟨rest, hrest, heq⟩ := bind_eq_ok.mp hok
      cases heq
      obtain ⟨cs, b, rfl, hb⟩ := exists_of_tryEach_concat hrest
      exact ⟨b' :: cs, b, rfl, hb⟩

namespace Form

/-- What the records of a field that may be absent say that it holds. -/
inductive Says (rs : List Record) : (f : Form) → f.Content → Prop
  /-- Of simple values the last one counts. -/
  | last {d : Datum} {before : List Record} {r : Record} {raw : d.Raw} {v : d.Value}
      (hlast : rs = before ++ [r]) (hread : r.scalar d.scalar = .ok raw)
      (hcheck : d.check raw = .ok v) : Says rs (.optional d) v
  /-- Submessages are merged, each into what those before have made. -/
  | merged {s : Submessage} {raw : s.Raw} {v : s.Value} (hsome : rs ≠ [])
      (hmerge : rs.foldlM s.add s.blank = .ok raw) (hcheck : s.check raw = .ok v) :
      Says rs (.optionalRecord s) v
  /-- Without records a simple value is zero. -/
  | zero {d : Datum} (hnone : rs = []) : Says rs (.optional d) d.zero
  /-- Without records every member of a submessage is zero. -/
  | zeros {s : Submessage} (hnone : rs = []) : Says rs (.optionalRecord s) s.zero

variable {own : Nat} {rs : List Record}

/-- A field that may be absent stands at one tag. It is there if it has a record, and holds what its
records say. -/
lemma has_iff_of_gather {f : Form} {v : f.Value} (hopt : f.isOptional = true)
    (h : f.gather own rs = .ok (f.toRaw v)) :
    (f.has v = true ↔ inSlot [own] rs ≠ []) ∧ f.Says (inSlot [own] rs) (f.get v) := by
  cases f with
  | single d | list d | record s | records s | choice as | inlined s => cases hopt
  | optional d =>
      obtain ⟨raws, hraws, hlast⟩ := bind_eq_ok.mp h
      have hlast : raws.getLast? = Option.map d.toRaw v := Except.ok.inj hlast
      rcases List.eq_nil_or_concat (inSlot [own] rs) with hnil | ⟨before, r, hrs⟩
      · rw [hnil] at hraws ⊢
        cases hraws
        cases (v : Option d.Value) with
        | some w => cases hlast
        | none => exact ⟨⟨nofun, fun hne => absurd rfl hne⟩, .zero rfl⟩
      · rw [hrs, List.concat_eq_append] at hraws ⊢
        obtain ⟨_, raw, rfl, hread⟩ := exists_of_tryEach_concat hraws
        rw [List.getLast?_concat] at hlast
        cases (v : Option d.Value) with
        | none => cases hlast
        | some w =>
            refine ⟨⟨fun _ => List.append_ne_nil_of_right_ne_nil _ (List.cons_ne_nil _ _),
              fun _ => rfl⟩, ?_⟩
            exact .last rfl hread ((d.exact raw w).mpr (Option.some.inj hlast).symm)
  | optionalRecord s =>
      by_cases hnil : inSlot [own] rs = []
      · have hgather : s.gather (inSlot [own] rs) = .ok none := if_pos hnil
        cases (v : Option s.Value) with
        | none => exact ⟨⟨nofun, fun hne => absurd hnil hne⟩, .zeros hnil⟩
        | some w => cases hgather.symm.trans h
      · have hgather : s.gather (inSlot [own] rs) = _ := if_neg hnil
        obtain ⟨raw, hmerge, hok⟩ := bind_eq_ok.mp (hgather.symm.trans h)
        cases (v : Option s.Value) with
        | none => cases hok
        | some w =>
            refine ⟨⟨fun _ => hnil, fun _ => rfl⟩, .merged hnil hmerge ?_⟩
            exact (s.exact raw w).mpr (Option.some.inj (Except.ok.inj hok)).symm

end Form

/-- The records of a body say of each field that may be absent whether it is there and what it
holds. -/
theorem Body.has_iff_of_gather {s : Shape} {rs : List Record} {b : Body s}
    (h : s.gather rs = .ok b.toRaw) (k : Fin s.fields.length)
    (hopt : (s.fields.get k).form.isOptional = true) :
    (b.has k = true ↔ inSlot [(s.fields.get k).tag] rs ≠ []) ∧
      (s.fields.get k).form.Says (inSlot [(s.fields.get k).tag] rs) (b.get k) := by
  have hfield := Row.tryOfFn_eq_ok_iff.mp h k
  rw [toRaw, Row.get_map] at hfield
  exact Form.has_iff_of_gather hopt hfield

/-! ### Members in text -/

namespace Body

variable {s : Shape} {b b' : Body s}

/-- The members of a body in text, in order. -/
def members (b : Body s) : List (String × Json.Value) :=
  (b.row.toList Field.member?).filterMap id

/-- Each member is that of a field that is there, and has what the field holds. -/
lemma mem_members {m : String × Json.Value} :
    m ∈ b.members ↔ ∃ k, b.has k = true ∧
      m = ((s.fields.get k).key, (s.fields.get k).form.contentToJson (b.get k)) := by
  have hmember : ∀ k : Fin s.fields.length, some m = (s.fields.get k).member? (b.row.get k) ↔
      b.has k = true ∧
        m = ((s.fields.get k).key, (s.fields.get k).form.contentToJson (b.get k)) := by
    intro k
    rw [Field.member?, Form.toJson?, has]
    split
    · next hhas => exact ⟨fun h => ⟨hhas, Option.some.inj h⟩, fun h => congrArg some h.2⟩
    · next hhas => exact ⟨nofun, fun h => absurd h.1 hhas⟩
  rw [members, List.mem_filterMap]
  constructor
  · rintro ⟨_, hm, rfl⟩
    obtain ⟨k, hk⟩ := Row.mem_toList_iff.mp hm
    exact ⟨k, (hmember k).mp hk⟩
  · rintro ⟨k, hk⟩
    exact ⟨some m, Row.mem_toList_iff.mpr ⟨k, (hmember k).mpr hk⟩, rfl⟩

/-- A field has a member just when it is there, if no other field goes by its key. -/
lemma mem_members_iff (hkeys : (s.fields.map Field.key).Nodup) (k : Fin s.fields.length)
    (j : Json.Value) :
    ((s.fields.get k).key, j) ∈ b.members ↔
      b.has k = true ∧ j = (s.fields.get k).form.contentToJson (b.get k) := by
  rw [mem_members]
  constructor
  · rintro ⟨k', hhas, hm⟩
    obtain ⟨hkey, rfl⟩ := Prod.mk.inj hm
    have hlen : (s.fields.map Field.key).length = s.fields.length := List.length_map _
    have hplace : k.cast hlen.symm = k'.cast hlen.symm :=
      List.nodup_iff_injective_get.mp hkeys (by simpa using hkey)
    have hval := congrArg Fin.val hplace
    obtain rfl : k = k' := Fin.ext hval
    exact ⟨hhas, rfl⟩
  · rintro ⟨hhas, rfl⟩
    exact ⟨k, hhas, rfl⟩

/-- The key of a field is among the members just when the field is there. -/
lemma key_mem_iff (hkeys : (s.fields.map Field.key).Nodup) (k : Fin s.fields.length) :
    (s.fields.get k).key ∈ b.members.map Prod.fst ↔ b.has k = true := by
  rw [List.mem_map]
  constructor
  · rintro ⟨⟨_, j⟩, hm, rfl⟩
    exact ((mem_members_iff hkeys k j).mp hm).1
  · intro hhas
    exact ⟨_, (mem_members_iff hkeys k _).mpr ⟨hhas, rfl⟩, rfl⟩

end Body

/-! ### Settings -/

/-- A field that may be absent, and what it is to hold. -/
structure Shape.Setting (s : Shape) where
  /-- The place of the field. -/
  place : Fin s.fields.length
  /-- It may be absent. -/
  isOptional : (s.fields.get place).form.isOptional = true
  /-- What it is to hold. -/
  content : (s.fields.get place).form.Content

namespace Form

lemma has_put (f : Form) (v : f.Content) : f.has (f.put v) = true := by cases f <;> rfl

lemma get_put (f : Form) (v : f.Content) : f.get (f.put v) = v := by cases f <;> rfl

end Form

namespace Body

variable {s : Shape} {b b' : Body s} {k : Fin s.fields.length}

lemma row_of_put {v : (s.fields.get k).form.Content} (h : b.put k v = .ok b') :
    b'.row = b.row.set k ((s.fields.get k).form.put v) := ofRow_eq_ok_iff.mp h

/-- The field that is put is there and holds what is put. -/
lemma has_and_get_of_put {v : (s.fields.get k).form.Content} (h : b.put k v = .ok b') :
    b'.has k = true ∧ b'.get k = v := by
  rw [has, get, row_of_put h, Row.get_set_self]
  exact ⟨Form.has_put _ v, Form.get_put _ v⟩

/-- The other fields stay as they are. -/
lemma has_and_get_of_put_of_ne {j : Fin s.fields.length} {v : (s.fields.get k).form.Content}
    (h : b.put k v = .ok b') (hne : j ≠ k) : b'.has j = b.has j ∧ b'.get j = b.get j := by
  rw [has, get, row_of_put h, Row.get_set_of_ne _ _ hne]
  exact ⟨rfl, rfl⟩

/-- The body after some settings, one after the other. -/
def setAll (b : Body s) (cs : List s.Setting) : Except (String × Overflow) (Body s) :=
  cs.foldlM (fun b c => b.put c.place c.content) b

lemma setAll_cons_eq_ok_iff {c : s.Setting} {cs : List s.Setting} :
    b.setAll (c :: cs) = .ok b' ↔
      ∃ middle, b.put c.place c.content = .ok middle ∧ middle.setAll cs = .ok b' := by
  rw [setAll, List.foldlM_cons, bind_eq_ok]
  rfl

/-- Without a rule that ties fields together, nothing is refused. -/
lemma exists_setAll (hrule : ∀ row, s.rule row = none) :
    ∀ (cs : List s.Setting) (b : Body s), ∃ b', b.setAll cs = .ok b'
  | [], b => ⟨b, rfl⟩
  | c :: cs, b => by
      have hput : b.put c.place c.content = .ok ⟨_, hrule _⟩ := ofRow_eq_ok_iff.mpr rfl
      obtain ⟨b', hb'⟩ := exists_setAll hrule cs ⟨_, hrule _⟩
      exact ⟨b', setAll_cons_eq_ok_iff.mpr ⟨_, hput, hb'⟩⟩

/-- A field is there after some settings if it was before or is one of those that were set. -/
lemma has_iff_of_setAll (k : Fin s.fields.length) : ∀ {cs : List s.Setting} {b : Body s},
    b.setAll cs = .ok b' → (b'.has k = true ↔ b.has k = true ∨ ∃ c ∈ cs, c.place = k)
  | [], b, h => by
      cases h
      simp
  | c :: cs, b, h => by
      obtain ⟨middle, hput, hrest⟩ := setAll_cons_eq_ok_iff.mp h
      have hmiddle : middle.has k = true ↔ b.has k = true ∨ c.place = k := by
        by_cases hplace : c.place = k
        · subst hplace
          exact iff_of_true (has_and_get_of_put hput).1 (.inr rfl)
        · rw [(has_and_get_of_put_of_ne hput (Ne.symm hplace)).1, or_iff_left hplace]
      rw [has_iff_of_setAll k hrest, hmiddle, or_assoc, List.exists_mem_cons_iff]

/-- A field that is not set holds what it held. -/
lemma get_of_setAll (k : Fin s.fields.length) : ∀ {cs : List s.Setting} {b : Body s},
    b.setAll cs = .ok b' → (∀ c ∈ cs, c.place ≠ k) → b'.get k = b.get k
  | [], b, h, _ => by
      cases h
      rfl
  | c :: cs, b, h, hne => by
      obtain ⟨middle, hput, hrest⟩ := setAll_cons_eq_ok_iff.mp h
      obtain ⟨hc, hcs⟩ := List.forall_mem_cons.mp hne
      rw [get_of_setAll k hrest hcs, (has_and_get_of_put_of_ne hput (Ne.symm hc)).2]

/-- A field that is set holds what it was set to last. -/
lemma get_of_setAll_last {before after : List s.Setting} {c : s.Setting}
    (h : b.setAll (before ++ c :: after) = .ok b') (hafter : ∀ c' ∈ after, c'.place ≠ c.place) :
    b'.get c.place = c.content := by
  rw [setAll, List.foldlM_append] at h
  obtain ⟨middle, _, hrest⟩ := bind_eq_ok.mp h
  obtain ⟨next, hput, hend⟩ := setAll_cons_eq_ok_iff.mp hrest
  rw [get_of_setAll c.place hend hafter, (has_and_get_of_put hput).2]

end Body

end RadioFrame
