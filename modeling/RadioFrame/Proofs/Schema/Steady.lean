import RadioFrame.Frame
import RadioFrame.Proofs.Wire.Steady

/-!
The fields of the schema are read steadily.

Every form of field is (`Form.isSteady`), so every body is (`Shape.isSteady`), and so is a frame
with whatever it held before (`Frame.isSteady`). Values that the field, the body or the frame had
before are part of the state and not of the bytes, so that a record is read alike whether it is the
first of its field or not.
-/

namespace RadioFrame

open Wire (Steady IsSteady)

/-! ### Simple values -/

lemma isSteady_singleReader (s : Wire.Scalar) (label : String) :
    (singleReader s label).IsSteady := fun found _ _ => s.steady_read found

namespace Form

/-- A reader at one tag knows no other. -/
lemma isSteady_readerAt {σ : Type} (own : Nat) {r : Wire.FieldReader σ} (h : r.IsSteady) :
    IsSteady (readerAt own r) := by
  intro tag field hfield
  rw [readerAt] at hfield
  split at hfield
  · cases hfield
    exact h
  · cases hfield

/-- An element of a list is read steadily, and has at least one byte. -/
lemma steadyStep_readElement (s : Wire.Scalar) : Wire.SteadyStep (readElement s) where
  steady values := s.steady_readValue.bind fun v => Wire.steady_ok (values ++ [v])
  length_lt values bytes read rest h := by
    obtain ⟨⟨v, r⟩, hv, hok⟩ := bind_eq_ok.mp h
    cases hok
    exact s.length_lt_of_readValue hv

lemma isSteady_listReader (s : Wire.Scalar) (label : String) :
    (listReader s label).IsSteady := by
  intro found budget values
  by_cases hpacked : found = .lengthDelimited ∧ s.wireType ≠ .lengthDelimited
  · simp only [listReader, if_pos hpacked]
    exact Wire.steady_readDelimited (steadyStep_readElement s) values
  · simp only [listReader, if_neg hpacked]
    exact ((steadyStep_readElement s).steady values).after _

end Form

/-! ### Submessages -/

/-- The members of a submessage are read steadily. -/
lemma Submessage.isSteady (s : Submessage) : IsSteady (Wire.rowReader Member.readers s.members) :=
  Wire.isSteady_rowReader fun m _ =>
    Form.isSteady_readerAt m.tag (isSteady_singleReader m.datum.scalar m.name)

/-- A submessage is read steadily, whatever it is merged into. -/
lemma Submessage.steady_merge (s : Submessage) (found : Wire.WireType) (budget : Nat)
    (raw : s.Raw) : Steady (s.merge found budget raw) :=
  s.isSteady.mergeDelimited s.wireName found budget raw

namespace Form

lemma isSteady_submessageReader (s : Submessage) (label : String) :
    (submessageReader s label).IsSteady := fun found budget _ =>
  (s.steady_merge found budget _).bind fun v => Wire.steady_ok (some v)

lemma isSteady_submessagesReader (s : Submessage) (label : String) :
    (submessagesReader s label).IsSteady := fun found budget values =>
  (s.steady_merge found budget s.blank).bind fun v => Wire.steady_ok (values ++ [v])

/-! ### Fields and bodies -/

/-- Every form of field is read steadily. -/
theorem isSteady (name : String) (own : Nat) (f : Form) : IsSteady (f.readers name own) := by
  cases f with
  | single d => exact isSteady_readerAt own (isSteady_singleReader d.scalar name)
  | optional d =>
      refine isSteady_readerAt (σ := Option d.Raw) own fun found _ _ => ?_
      exact (d.scalar.steady_read found).bind fun v => Wire.steady_ok (some v)
  | list d => exact isSteady_readerAt own (isSteady_listReader d.scalar name)
  | record s | optionalRecord s => exact isSteady_readerAt own (isSteady_submessageReader s name)
  | records s => exact isSteady_readerAt own (isSteady_submessagesReader s name)
  | choice as =>
      exact Wire.isSteady_oneOfReader fun i found budget v =>
        (as.get i).submessage.steady_merge found budget v
  | inlined s =>
      exact Wire.isSteady_rowReader fun m _ =>
        isSteady_readerAt _ (isSteady_singleReader m.datum.scalar _)

end Form

/-- The fields of a body are read steadily. -/
lemma Shape.isSteady (s : Shape) : IsSteady s.readers :=
  Wire.isSteady_rowReader fun f _ => f.form.isSteady f.name f.tag

/-! ### Frames -/

namespace Frame

/-- The kinds of a domain are read steadily, with their bodies. -/
lemma isSteady_branch (d : Domain) : IsSteady (branchReaders d) :=
  Wire.isSteady_oneOfReader fun k found budget raw =>
    (Kind.shape k).isSteady.mergeDelimited _ found budget raw

/-- The fields of a frame are read steadily: so are the kinds of each domain, and their bodies. -/
theorem isSteady : IsSteady readers :=
  Wire.isSteady_oneOfReader fun d found budget branch =>
    (isSteady_branch d).mergeDelimited messageName found budget branch

end Frame

end RadioFrame
