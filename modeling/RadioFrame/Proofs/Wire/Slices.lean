import Mathlib.Data.Option.Basic
import RadioFrame.Proofs.Wire.Steady

/-!
Reading what stands behind a length by itself.

`readDelimited` holds a length against all bytes that are left, reads on from where it stands and
notices afterwards when a step has run past the end. `readSlice` cuts as many bytes off first,
holding the length against the bytes that it was given, and reads the slice by itself to its end: no
step can see a byte beyond it. A message inside a message is read that way by `mergeSlice`.

For steps that look at no byte but those they take, the two succeed alike (`alike_readSlice`): what
a step had read behind the end would be missing from what is left, and nothing gives it back. The
readers of messages are alike when those of their fields are (`alike_mergeRecord`,
`alike_rowReader`, `alike_oneOfReader`, `alike_mergeSlice`).
-/

namespace RadioFrame.Wire

/-! ### Slices -/

section Slices

variable {σ : Type} {step step' : σ → Bytes → Except Fault (σ × Bytes)}

/-- Reads a length, cuts as many bytes off, and repeats a step on these alone until they are used
up. -/
def readSlice (step : σ → Bytes → Except Fault (σ × Bytes)) (s : σ) (bytes : Bytes) :
    Except Fault (σ × Bytes) := do
  let (slice, rest) ← readSized bytes
  let (s, _) ← readUntil 0 step slice.length s slice
  .ok (s, rest)

/-- Reads a message inside a message into a value, from its own slice. -/
def mergeSlice (name : String) (fields : FieldReaders σ) (found : WireType) (budget : Nat) (s : σ)
    (bytes : Bytes) : Except Fault (σ × Bytes) := do
  expect .lengthDelimited found
  match budget with
  | 0 => .error (.plain .tooDeep)
  | budget + 1 => readSlice (mergeRecord name fields budget) s bytes

/-- A slice is a length and the bytes of steps that use it up. -/
lemma readSlice_eq_ok_iff (hstep : SteadyStep step) {s t : σ} {bytes rest : Bytes} :
    readSlice step s bytes = .ok (t, rest) ↔
      ∃ w ws, bytes = w ++ (ws.flatten ++ rest) ∧ IsNumber w ws.flatten.length ∧
        Leads (Consumes step) s ws t := by
  constructor
  · intro h
    obtain ⟨⟨slice, left⟩, hsized, hbody⟩ := bind_eq_ok.mp h
    obtain ⟨w, rfl, hw⟩ := readSized_eq_ok_iff.mp hsized
    obtain ⟨⟨u, behind⟩, hloop, hok⟩ := bind_eq_ok.mp hbody
    cases hok
    have hend := length_le_of_readUntil hstep (Nat.le_refl _) hloop
    obtain rfl : behind = [] := List.length_eq_zero_iff.mp (Nat.le_zero.mp hend)
    obtain ⟨ws, hslice, hws⟩ := leads_of_readUntil hstep hloop
    rw [List.append_nil] at hslice
    subst hslice
    exact ⟨w, ws, rfl, hw, hws⟩
  · rintro ⟨w, ws, rfl, hw, hws⟩
    have hloop := readUntil_of_leads hws [] _ (Nat.le_refl _)
    rw [List.append_nil] at hloop
    exact bind_eq_ok.mpr ⟨_, readSized_eq_ok_iff.mpr ⟨w, rfl, hw⟩,
      bind_eq_ok.mpr ⟨_, hloop, rfl⟩⟩

/-- What is read up to a limit is what is read from the slice before it. -/
lemma alike_readDelimited (hstep : SteadyStep step) (s : σ) (bytes : Bytes) :
    Alike (readDelimited step s bytes) (readSlice step s bytes) := by
  rintro ⟨t, rest⟩
  exact (readDelimited_eq_ok_iff hstep).trans (readSlice_eq_ok_iff hstep).symm

/-- Loops of steps that are alike are alike. -/
lemma alike_readUntil (h : ∀ s bytes, Alike (step s bytes) (step' s bytes)) (limit : Nat) :
    ∀ fuel s bytes, Alike (readUntil limit step fuel s bytes) (readUntil limit step' fuel s bytes)
  | 0, _, _ => Alike.refl _
  | fuel + 1, s, bytes => by
      rw [readUntil, readUntil]
      split
      · exact Alike.refl _
      · exact (h s bytes).bind fun p => alike_readUntil h limit fuel p.1 p.2

/-- A slice read in steps that are alike to those up to a limit. -/
lemma alike_readSlice (hstep : SteadyStep step)
    (h : ∀ s bytes, Alike (step s bytes) (step' s bytes))
    (s : σ) (bytes : Bytes) : Alike (readDelimited step s bytes) (readSlice step' s bytes) := by
  have hslice : Alike (readSlice step s bytes) (readSlice step' s bytes) :=
    (Alike.refl (readSized bytes)).bind fun p =>
      (alike_readUntil h 0 p.1.length s p.1).bind fun _ => Alike.refl _
  exact (alike_readDelimited hstep s bytes).trans hslice

end Slices

/-! ### Fields and messages -/

section Fields

variable {σ : Type} {fields fields' : FieldReaders σ}

/-- Two fields whose values are read alike. -/
def FieldReader.IsAlike (r r' : FieldReader σ) : Prop :=
  ∀ found budget s bytes, Alike (r.read found budget s bytes) (r'.read found budget s bytes)

/-- Two tables of fields that know the same tags and read them alike. -/
def IsAlike (fields fields' : FieldReaders σ) : Prop :=
  ∀ tag, Option.Rel FieldReader.IsAlike (fields tag) (fields' tag)

lemma IsAlike.refl (fields : FieldReaders σ) : IsAlike fields fields := fun tag => by
  cases fields tag with
  | none => exact .none
  | some r => exact .some fun _ _ _ _ => Alike.refl _

/-- Records are read alike if the fields are. -/
lemma alike_mergeRecord (h : IsAlike fields fields') (name : String) (budget : Nat) (s : σ)
    (bytes : Bytes) :
    Alike (mergeRecord name fields budget s bytes) (mergeRecord name fields' budget s bytes) := by
  refine (Alike.refl (readKey bytes)).bind ?_
  rintro ⟨key, rest⟩
  dsimp only
  have htag := h key.tag
  cases hfield : fields key.tag with
  | none =>
      rw [hfield] at htag
      cases hfield' : fields' key.tag with
      | none => exact Alike.refl _
      | some r' =>
          rw [hfield'] at htag
          cases htag
  | some r =>
      rw [hfield] at htag
      cases hfield' : fields' key.tag with
      | none =>
          rw [hfield'] at htag
          cases htag
      | some r' =>
          rw [hfield'] at htag
          cases htag with
          | some hr => exact (hr key.wireType budget s rest).mapError _ _

/-- A message inside a message is read from its slice like it is read in place, if its fields are.
-/
lemma alike_mergeSlice (hsteady : IsSteady fields) (h : IsAlike fields fields') (name : String)
    (found : WireType) (budget : Nat) (s : σ) (bytes : Bytes) :
    Alike (mergeDelimited name fields found budget s bytes)
      (mergeSlice name fields' found budget s bytes) := by
  refine (Alike.refl (expect .lengthDelimited found)).bind fun _ => ?_
  cases budget with
  | zero => exact Alike.refl _
  | succ budget =>
      exact alike_readSlice (hsteady.mergeRecord name budget) (alike_mergeRecord h name budget) s
        bytes

end Fields

/-! ### Several fields -/

section Several

variable {ι α β : Type} {V : ι → Type}

lemma FieldReader.IsAlike.onFirst {r r' : FieldReader α} (h : r.IsAlike r') :
    (r.onFirst : FieldReader (α × β)).IsAlike r'.onFirst := fun found budget s bytes =>
  (h found budget s.1 bytes).bind fun _ => Alike.refl _

lemma FieldReader.IsAlike.onSecond {r r' : FieldReader β} (h : r.IsAlike r') :
    (r.onSecond : FieldReader (α × β)).IsAlike r'.onSecond := fun found budget s bytes =>
  (h found budget s.2 bytes).bind fun _ => Alike.refl _

/-- Rows are read alike if their entries are. -/
lemma alike_rowReader {entry entry' : ∀ i, FieldReaders (V i)}
    (h : ∀ i, IsAlike (entry i) (entry' i)) :
    ∀ is : List ι, IsAlike (rowReader entry is) (rowReader entry' is)
  | [], _ => .none
  | i :: is, tag => by
      have hfirst := h i tag
      have hothers := alike_rowReader h is tag
      rw [rowReader, rowReader]
      generalize entry i tag = r, entry' i tag = r' at hfirst
      generalize rowReader entry is tag = q, rowReader entry' is tag = q' at hothers
      cases hfirst with
      | some hr => exact .some hr.onFirst
      | none =>
          cases hothers with
          | some hr => exact .some hr.onSecond
          | none => exact .none

/-- Exclusive fields are read alike if each is. -/
lemma alike_oneOfReader [DecidableEq ι] (label : String) (ofTag? : Nat → Option ι)
    (blank : ∀ i, V i) {read read' : ∀ i, WireType → Nat → V i → Bytes → Except Fault (V i × Bytes)}
    (h : ∀ i found budget v bytes,
      Alike (read i found budget v bytes) (read' i found budget v bytes)) :
    IsAlike (oneOfReader label ofTag? blank read) (oneOfReader label ofTag? blank read') := by
  intro tag
  rw [oneOfReader, oneOfReader]
  cases ofTag? tag with
  | none => exact .none
  | some i =>
      refine .some fun found budget s bytes => ?_
      exact (h i found budget _ bytes).bind fun _ => Alike.refl _

end Several

end RadioFrame.Wire
