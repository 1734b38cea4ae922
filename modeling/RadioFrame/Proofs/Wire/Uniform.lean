import RadioFrame.Proofs.Wire.Steady

/-!
Readers that take the same bytes whatever they are merged into.

A record is merged into what was read before it. What was read before decides what comes of the
record, but not whether the record is accepted nor where it ends: a reader of which this holds is
uniform (`Uniform`).

* `uniform_const`, `Uniform.part`: a reader that does not look at the value, and one that reads a
  part of it and puts the part back;
* `Uniform.readUntil`, `Uniform.readDelimited`, `IsUniform.mergeRecord`, `IsUniform.mergeDelimited`:
  loops and messages;
* `isUniform_rowReader`, `isUniform_oneOfReader`: several fields.

So records that are accepted one by one are accepted one after the other, in any order and from any
value (`exists_leads`).
-/

namespace RadioFrame.Wire

variable {σ τ α β : Type}

/-! ### Uniform readers -/

/-- What is read, and where the reading ends, do not depend on the value that it is merged into. -/
def Uniform (read : σ → Bytes → Except Fault (τ × Bytes)) : Prop :=
  ∀ ⦃s bytes t rest⦄, read s bytes = .ok (t, rest) → ∀ s', ∃ t', read s' bytes = .ok (t', rest)

lemma uniform_const (read : Bytes → Except Fault (τ × Bytes)) : Uniform fun _ : σ => read := by
  intro s bytes t rest h s'
  exact ⟨t, h⟩

/-- A part of a value is read uniformly, and put back with the rest of the value. -/
lemma Uniform.part {read : α → Bytes → Except Fault (β × Bytes)} (h : Uniform read) (part : σ → α)
    (put : σ → β → τ) :
    Uniform fun s bytes => read (part s) bytes >>= fun p => .ok (put s p.1, p.2) := by
  intro s bytes t rest hread s'
  obtain ⟨⟨b, r⟩, hb, hok⟩ := bind_eq_ok.mp hread
  cases hok
  obtain ⟨b', hb'⟩ := h hb (part s')
  exact ⟨put s' b', bind_eq_ok.mpr ⟨(b', r), hb', rfl⟩⟩

lemma Uniform.mapError {read : σ → Bytes → Except Fault (τ × Bytes)} (h : Uniform read)
    (f : Fault → Fault) : Uniform fun s bytes => (read s bytes).mapError f := by
  intro s bytes t rest hread s'
  obtain ⟨t', ht'⟩ := h (mapError_eq_ok.mp hread) s'
  exact ⟨t', mapError_eq_ok.mpr ht'⟩

/-- A uniform reader behind a test that looks at neither the value nor the bytes. -/
lemma Uniform.after {read : σ → Bytes → Except Fault (τ × Bytes)} (h : Uniform read)
    (test : Except Fault Unit) : Uniform fun s bytes => test >>= fun _ => read s bytes := by
  intro s bytes t rest hread s'
  obtain ⟨_, htest, hread⟩ := bind_eq_ok.mp hread
  obtain ⟨t', ht'⟩ := h hread s'
  exact ⟨t', bind_eq_ok.mpr ⟨(), htest, ht'⟩⟩

/-! ### Loops -/

section Loops

variable {step : σ → Bytes → Except Fault (σ × Bytes)}

/-- A loop of uniform steps takes as many of them from any value. -/
lemma Uniform.readUntil (h : Uniform step) (limit : Nat) :
    ∀ fuel, Uniform (readUntil limit step fuel)
  | 0 => by
      intro s bytes t rest hread s'
      cases hread
      exact ⟨s', rfl⟩
  | fuel + 1 => by
      intro s bytes t rest hread s'
      rw [Wire.readUntil] at hread ⊢
      split at hread
      · next hshort =>
          cases hread
          exact ⟨s', if_pos hshort⟩
      · next hlong =>
          obtain ⟨⟨u, r⟩, hu, hrest⟩ := bind_eq_ok.mp hread
          obtain ⟨u', hu'⟩ := h hu s'
          obtain ⟨t', ht'⟩ := Uniform.readUntil h limit fuel hrest u'
          exact ⟨t', (if_neg hlong).trans (bind_eq_ok.mpr ⟨(u', r), hu', ht'⟩)⟩

lemma Uniform.readDelimited (h : Uniform step) : Uniform (readDelimited step) := by
  intro s bytes t rest hread s'
  obtain ⟨⟨n, content⟩, hn, hbody⟩ := bind_eq_ok.mp hread
  dsimp only at hbody
  split at hbody
  · cases hbody
  · next hfits =>
      obtain ⟨⟨u, r⟩, hloop, hend⟩ := bind_eq_ok.mp hbody
      dsimp only at hend
      split at hend
      · next hlimit =>
          cases hend
          obtain ⟨t', ht'⟩ := h.readUntil _ _ hloop s'
          refine ⟨t', bind_eq_ok.mpr ⟨(n, content), hn, (if_neg hfits).trans ?_⟩⟩
          exact bind_eq_ok.mpr ⟨(t', rest), ht', if_pos hlimit⟩
      · cases hend

/-- Bytes that one value lets a step take are taken from every value. -/
lemma Uniform.consumes (h : Uniform step) (hstep : SteadyStep step) {s t : σ} {w : Bytes}
    (hw : Consumes step s w t) (s' : σ) : ∃ t', Consumes step s' w t' := by
  obtain ⟨t', ht'⟩ := h (hw.2 []) s'
  obtain ⟨w', heq, hw'⟩ := hstep.consumes ht'
  rw [List.append_nil, List.append_nil] at heq
  exact ⟨t', heq ▸ hw'⟩

/-- Byte strings each of which a step takes from some value are taken one after the other. -/
lemma exists_leads (h : Uniform step) (hstep : SteadyStep step) :
    ∀ {ws : List Bytes}, (∀ w ∈ ws, ∃ s t, Consumes step s w t) →
      ∀ s, ∃ t, Leads (Consumes step) s ws t
  | [], _, s => ⟨s, .nil s⟩
  | w :: ws, hws, s => by
      obtain ⟨u, v, hw⟩ := hws w List.mem_cons_self
      obtain ⟨s', hs'⟩ := h.consumes hstep hw s
      obtain ⟨t, ht⟩ := exists_leads h hstep (fun x hx => hws x (List.mem_cons_of_mem _ hx)) s'
      exact ⟨t, .cons hs' ht⟩

end Loops

/-! ### Fields and messages -/

/-- A field whose values are read uniformly. -/
def FieldReader.IsUniform (field : FieldReader σ) : Prop :=
  ∀ found budget, Uniform (field.read found budget)

/-- Fields all of which are read uniformly. -/
def IsUniform (fields : FieldReaders σ) : Prop :=
  ∀ ⦃tag field⦄, fields tag = some field → field.IsUniform

section Fields

variable {fields : FieldReaders σ}

/-- The records of a message are read uniformly if its fields are; unknown ones are passed over. -/
lemma IsUniform.mergeRecord (h : IsUniform fields) (name : String) (budget : Nat) :
    Uniform (mergeRecord name fields budget) := by
  intro s bytes t rest hread s'
  obtain ⟨⟨key, r⟩, hkey, hbody⟩ := bind_eq_ok.mp hread
  dsimp only at hbody
  cases hfield : fields key.tag with
  | none =>
      rw [hfield] at hbody
      obtain ⟨r', hskip, hok⟩ := bind_eq_ok.mp hbody
      cases hok
      refine ⟨s', bind_eq_ok.mpr ⟨(key, r), hkey, ?_⟩⟩
      dsimp only
      rw [hfield]
      exact bind_eq_ok.mpr ⟨rest, hskip, rfl⟩
  | some field =>
      rw [hfield] at hbody
      obtain ⟨t', ht'⟩ := (h hfield key.wireType budget).mapError _ hbody s'
      refine ⟨t', bind_eq_ok.mpr ⟨(key, r), hkey, ?_⟩⟩
      dsimp only
      rw [hfield]
      exact ht'

lemma IsUniform.mergeDelimited (h : IsUniform fields) (name : String) (found : WireType)
    (budget : Nat) : Uniform (mergeDelimited name fields found budget) := by
  cases budget with
  | zero => exact (uniform_const _).after _
  | succ budget => exact (h.mergeRecord name budget).readDelimited.after _

end Fields

/-! ### Several fields -/

section Several

variable {ι : Type} {V : ι → Type}

lemma FieldReader.IsUniform.onFirst {r : FieldReader α} (h : r.IsUniform) :
    (r.onFirst : FieldReader (α × β)).IsUniform := fun found budget =>
  (h found budget).part Prod.fst fun s a => (a, s.2)

lemma FieldReader.IsUniform.onSecond {r : FieldReader β} (h : r.IsUniform) :
    (r.onSecond : FieldReader (α × β)).IsUniform := fun found budget =>
  (h found budget).part Prod.snd fun s b => (s.1, b)

/-- The entries of a row are read uniformly if each is. -/
lemma isUniform_rowReader {entry : ∀ i, FieldReaders (V i)} (h : ∀ i, IsUniform (entry i)) :
    ∀ is : List ι, IsUniform (rowReader entry is)
  | [], _, _, hfield => nomatch hfield
  | i :: is, tag, field, hfield => by
      rw [rowReader] at hfield
      cases hi : entry i tag with
      | some r =>
          rw [hi] at hfield
          cases hfield
          exact (h i hi).onFirst
      | none =>
          rw [hi] at hfield
          obtain ⟨r, hr, rfl⟩ := Option.map_eq_some_iff.mp hfield
          exact (isUniform_rowReader h is hr).onSecond

/-- Exclusive fields are read uniformly if each is: a record of another field begins from a blank
value, and is read all the same. -/
lemma isUniform_oneOfReader [DecidableEq ι] {label : String} {ofTag? : Nat → Option ι}
    {blank : ∀ i, V i} {read : ∀ i, WireType → Nat → V i → Bytes → Except Fault (V i × Bytes)}
    (h : ∀ i found budget, Uniform (read i found budget)) :
    IsUniform (oneOfReader label ofTag? blank read) := by
  intro tag field hfield found budget
  obtain ⟨i, _, rfl⟩ := Option.map_eq_some_iff.mp hfield
  exact (h i found budget).part (τ := Option (OneOf V)) (fun s => OneOf.valueAt blank s i)
    fun _ v => some ⟨i, v⟩

end Several

end RadioFrame.Wire
