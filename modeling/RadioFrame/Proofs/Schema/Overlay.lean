import RadioFrame.Frame
import RadioFrame.Proofs.Row

/-!
One value over another.

When the records of a second value are read behind those of a first, each field of the second that
is written takes the place of the first, or is added to it. `overlay` says what comes of it, for the
checked values of a field (`Form.overlay`); `overlayRaw` says the same of what stands on the wire,
of fields and bodies, and of frames (`Frame.overlay`). The two agree (`Form.overlayRaw_toRaw`), and
over a blank value the second stands as it is (`Form.overlayRaw_blank`, `Frame.overlay_none`).
-/

namespace RadioFrame

/-! ### Exclusive members -/

namespace OneOf

variable {ι : Type} [DecidableEq ι] {V W : ι → Type}

/-- A member that is set takes the place of another, and is put over one that is the same. -/
def overlay (join : ∀ i, V i → V i → V i) (a b : OneOf V) : OneOf V :=
  if h : a.member = b.member then ⟨b.member, join b.member (h ▸ a.value) b.value⟩ else b

/-- The same of members that need not be set: the second is put over what is there for it, or over a
blank value. -/
def overlay? (blank : ∀ i, V i) (join : ∀ i, V i → V i → V i) (a b : Option (OneOf V)) :
    Option (OneOf V) :=
  match b with
  | none => a
  | some b => some ⟨b.member, join b.member (valueAt blank a b.member) b.value⟩

variable {blank : ∀ i, V i} {join : ∀ i, V i → V i → V i}

lemma overlay?_none (h : ∀ i v, join i (blank i) v = v) (b : Option (OneOf V)) :
    overlay? blank join none b = b := by
  cases b with
  | none => rfl
  | some b => rw [overlay?, valueAt, h]

/-- Another member is replaced. -/
lemma overlay?_of_ne (h : ∀ i v, join i (blank i) v = v) {a b : OneOf V}
    (hne : a.member ≠ b.member) : overlay? blank join (some a) (some b) = some b := by
  rw [overlay?, valueAt, dif_neg hne, h]

lemma overlay?_self (i : ι) (v w : V i) :
    overlay? blank join (some ⟨i, v⟩) (some ⟨i, w⟩) = some ⟨i, join i v w⟩ := by
  rw [overlay?, valueAt, dif_pos rfl]

/-- What is made of two members can be put together before or after. -/
lemma overlay?_make {blank : ∀ i, W i} {join : ∀ i, V i → V i → V i} {join' : ∀ i, W i → W i → W i}
    {make : ∀ i, V i → W i} (hblank : ∀ i w, join' i (blank i) w = w)
    (h : ∀ i v w, join' i (make i v) (make i w) = make i (join i v w)) (a b : OneOf V) :
    overlay? blank join' (some ⟨a.member, make a.member a.value⟩)
        (some ⟨b.member, make b.member b.value⟩)
      = some ⟨(overlay join a b).member, make _ (overlay join a b).value⟩ := by
  obtain ⟨i, v⟩ := a
  obtain ⟨j, w⟩ := b
  by_cases heq : i = j
  · subst heq
    rw [overlay?_self, h, overlay, dif_pos rfl]
  · rw [overlay?_of_ne hblank heq, overlay, dif_neg heq]

end OneOf

/-! ### Values on the wire -/

/-- A simple value over another: zero is not written. -/
def Wire.Scalar.overlay (s : Wire.Scalar) (a b : s.Value) : s.Value := if b = s.zero then a else b

lemma Wire.Scalar.overlay_zero (s : Wire.Scalar) (b : s.Value) : s.overlay s.zero b = b := by
  rw [overlay]
  split
  · next hb => exact hb.symm
  · rfl

namespace Submessage

variable (s : Submessage)

/-- A submessage over another, member by member. -/
def overlayRaw (a b : s.Raw) : s.Raw := Row.zipWith (fun m : Member => m.datum.scalar.overlay) a b

lemma overlayRaw_blank (raw : s.Raw) : s.overlayRaw s.blank raw = raw :=
  Row.zipWith_ofFn (fun m v => m.datum.scalar.overlay_zero v) raw

end Submessage

namespace Form

/-- A submessage that may be absent over another. -/
def overlayRecord (s : Submessage) (a b : Option s.Raw) : Option s.Raw :=
  match b with
  | none => a
  | some b => some (s.overlayRaw (a.getD s.blank) b)

/-- A field as it stands on the wire, over another. -/
def overlayRaw : (f : Form) → f.Raw → f.Raw → f.Raw
  | single d, a, b => d.scalar.overlay a b
  | optional d, a, b => Option.or (α := d.Raw) b a
  | list d, a, b => List.append (α := d.Raw) a b
  | record s, a, b => overlayRecord s a b
  | optionalRecord s, a, b => overlayRecord s a b
  | records s, a, b => List.append (α := s.Raw) a b
  | choice as, a, b =>
      OneOf.overlay? (V := fun i : Fin as.length => (as.get i).submessage.Raw)
        (fun i => (as.get i).submessage.blank) (fun i => (as.get i).submessage.overlayRaw) a b
  | inlined s, a, b => s.overlayRaw a b

lemma overlayRaw_blank (f : Form) (v : f.Raw) : f.overlayRaw f.blank v = v := by
  cases f with
  | single d => exact d.scalar.overlay_zero v
  | optional d => exact Option.or_none
  | list d | records s => rfl
  | record s | optionalRecord s =>
      cases (v : Option s.Raw) with
      | none => rfl
      | some raw => exact congrArg some (s.overlayRaw_blank raw)
  | choice as =>
      exact OneOf.overlay?_none (fun i raw => (as.get i).submessage.overlayRaw_blank raw) v
  | inlined s => exact s.overlayRaw_blank v

end Form

/-- A field as it stands on the wire, over another. -/
def Field.overlayRaw (f : Field) (a b : f.Raw) : f.Raw := f.form.overlayRaw a b

namespace Shape

variable (s : Shape)

/-- A body over another, field by field. -/
def overlayRaw (a b : s.Raw) : s.Raw := Row.zipWith Field.overlayRaw a b

lemma overlayRaw_blank (raw : s.Raw) : s.overlayRaw s.blank raw = raw :=
  Row.zipWith_ofFn (fun f v => f.form.overlayRaw_blank v) raw

end Shape

namespace Frame

/-- The message of a domain over another of the same domain. -/
def overlayBranch (d : Domain) (a b : Option (Branch d)) : Option (Branch d) :=
  OneOf.overlay? (fun k => (Kind.shape k).blank) (fun k => (Kind.shape k).overlayRaw) a b

/-- A frame over another. -/
def overlay (f g : Frame) : Frame := OneOf.overlay? (fun _ => none) overlayBranch f g

lemma overlayBranch_none {d : Domain} (branch : Option (Branch d)) :
    overlayBranch d none branch = branch :=
  OneOf.overlay?_none (fun k raw => (Kind.shape k).overlayRaw_blank raw) branch

lemma overlay_none (f : Frame) : overlay none f = f :=
  OneOf.overlay?_none (fun _ branch => overlayBranch_none branch) f

end Frame

/-! ### Checked values -/

/-- A simple value over another: one that is zero on the wire is not written. -/
def Datum.overlay (d : Datum) (a b : d.Value) : d.Value :=
  if d.toRaw b = d.scalar.zero then a else b

lemma Datum.overlay_toRaw (d : Datum) (a b : d.Value) :
    d.scalar.overlay (d.toRaw a) (d.toRaw b) = d.toRaw (d.overlay a b) := by
  rw [Wire.Scalar.overlay, overlay, apply_ite d.toRaw]

namespace Submessage

variable (s : Submessage)

/-- A submessage over another, member by member. -/
def overlay (a b : s.Value) : s.Value := Row.zipWith (fun m : Member => m.datum.overlay) a b

lemma overlayRaw_toRaw (a b : s.Value) :
    s.overlayRaw (s.toRaw a) (s.toRaw b) = s.toRaw (s.overlay a b) :=
  Row.zipWith_map (fun m v w => m.datum.overlay_toRaw v w) a b

end Submessage

namespace Form

/-- A field over another: a simple value that is not zero, or one that is there, takes the place of
the other; a submessage is put over one of its kind, and a list behind another. -/
def overlay : (f : Form) → f.Value → f.Value → f.Value
  | single d, a, b => d.overlay a b
  | optional d, a, b => Option.or (α := d.Value) b a
  | list d, a, b => List.append (α := d.Value) a b
  | record s, a, b => s.overlay a b
  | optionalRecord s, a, b => Option.merge (α := s.Value) s.overlay a b
  | records s, a, b => List.append (α := s.Value) a b
  | choice as, a, b =>
      OneOf.overlay (V := fun i : Fin as.length => (as.get i).submessage.Value)
        (fun i => (as.get i).submessage.overlay) a b
  | inlined s, a, b => s.overlay a b

/-- The values of a field can be put over each other before or after they are put on the wire. -/
theorem overlayRaw_toRaw (f : Form) (a b : f.Value) :
    f.overlayRaw (f.toRaw a) (f.toRaw b) = f.toRaw (f.overlay a b) := by
  cases f with
  | single d => exact d.overlay_toRaw a b
  | optional d =>
      cases (b : Option d.Value) <;> rfl
  | list d => exact (List.map_append (f := d.toRaw)).symm
  | records s => exact (List.map_append (f := s.toRaw)).symm
  | record s => exact congrArg some (s.overlayRaw_toRaw a b)
  | optionalRecord s =>
      cases (a : Option s.Value) with
      | none =>
          cases (b : Option s.Value) with
          | none => rfl
          | some w => exact congrArg some (s.overlayRaw_blank (s.toRaw w))
      | some v =>
          cases (b : Option s.Value) with
          | none => rfl
          | some w => exact congrArg some (s.overlayRaw_toRaw v w)
  | choice as =>
      exact OneOf.overlay?_make (V := fun i : Fin as.length => (as.get i).submessage.Value)
        (W := fun i : Fin as.length => (as.get i).submessage.Raw)
        (fun i raw => (as.get i).submessage.overlayRaw_blank raw)
        (fun i v w => (as.get i).submessage.overlayRaw_toRaw v w) a b
  | inlined s => exact s.overlayRaw_toRaw a b

end Form

/-- A field over another. -/
def Field.overlay (f : Field) (a b : f.Value) : f.Value := f.form.overlay a b

end RadioFrame
