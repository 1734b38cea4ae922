import Mathlib.Data.List.Basic
import RadioFrame.Proofs.Schema.Layers
import RadioFrame.Proofs.Wire.Slices

/-!
Frames read slice by slice.

`Frame.decodeSlices` is a second way to read a frame. Every message inside a message and every list
in one record is cut out of the bytes around it first, and read by itself to its exact end; a length
that is larger than the slice it stands in is refused (`Wire.readSlice`).

* `Frame.decode_eq_ok_iff_slices`: what is accepted in place, where lengths are held against all
  bytes of the frame, is just what is accepted slice by slice, with the same outcome.
* `Frame.nested_of_decode`: so every frame that is accepted is strictly nested (`Nested`). No
  record, whether its tag is known or not, reaches over the end of the message that it stands in.
-/

namespace RadioFrame

/-! ### Fields in slices -/

/-- Merges a record of a submessage into a value, from its own slice. -/
def Submessage.mergeSlice (s : Submessage) (found : Wire.WireType) (budget : Nat) (raw : s.Raw)
    (bytes : Bytes) : Except Wire.Fault (s.Raw × Bytes) :=
  Wire.mergeSlice s.wireName (Wire.rowReader Member.readers s.members) found budget raw bytes

namespace Form

/-- Reads a list of simple values; of numbers, those in one record from their own slice. -/
def listSlices (s : Wire.Scalar) (label : String) : Wire.FieldReader (List s.Value) where
  label := label
  read := fun found _ values bytes =>
    if found = .lengthDelimited ∧ s.wireType ≠ .lengthDelimited then
      Wire.readSlice (readElement s) values bytes
    else do
      Wire.expect s.wireType found
      readElement s values bytes

/-- Merges a submessage into the value that is there, if any. -/
def submessageSlice (s : Submessage) (label : String) : Wire.FieldReader (Option s.Raw) where
  label := label
  read := fun found budget current bytes => do
    let (v, rest) ← s.mergeSlice found budget (current.getD s.blank) bytes
    .ok (some v, rest)

/-- Adds a submessage to the list of those read before. -/
def submessagesSlice (s : Submessage) (label : String) : Wire.FieldReader (List s.Raw) where
  label := label
  read := fun found budget values bytes => do
    let (v, rest) ← s.mergeSlice found budget s.blank bytes
    .ok (values ++ [v], rest)

/-- The records that change a field of a given name and tag, read in slices. In single values there
is nothing to cut. -/
def slices (name : String) (own : Nat) : (f : Form) → Wire.FieldReaders f.Raw
  | list d => readerAt own (listSlices d.scalar name)
  | record s => readerAt own (submessageSlice s name)
  | optionalRecord s => readerAt own (submessageSlice s name)
  | records s => readerAt own (submessagesSlice s name)
  | choice as =>
      Wire.oneOfReader name (alternativeOfTag? as own) (fun i => (as.get i).submessage.blank)
        fun i => (as.get i).submessage.mergeSlice
  | single d => (single d).readers name own
  | optional d => (optional d).readers name own
  | inlined s => (inlined s).readers name own

end Form

/-- The records that change a body, read in slices. -/
def Shape.slices (s : Shape) : Wire.FieldReaders s.Raw :=
  Wire.rowReader (fun f : Field => f.form.slices f.name f.tag) s.fields

namespace Frame

/-- The records that change the message of a domain, read in slices. -/
def branchSlices (d : Domain) : Wire.FieldReaders (Option (Branch d)) :=
  Wire.oneOfReader groupName (Kind.ofWireTag? d) (fun k => (Kind.shape k).blank)
    fun k => Wire.mergeSlice (Kind.shape k).wireName (Kind.shape k).slices

/-- The records that change a frame, read in slices. -/
def slices : Wire.FieldReaders Frame :=
  Wire.oneOfReader groupName Domain.ofWireTag? (fun _ => none)
    fun d => Wire.mergeSlice messageName (branchSlices d)

/-- Reads a byte string as a frame, slice by slice. -/
def decodeSlices (bytes : Bytes) : Except Wire.Fault Frame :=
  Wire.merge messageName slices none bytes

end Frame

/-! ### Slices and places -/

namespace Form

open Wire (IsAlike)

lemma alike_readerAt {σ : Type} (own : Nat) {r r' : Wire.FieldReader σ} (h : r.IsAlike r') :
    IsAlike (readerAt own r) (readerAt own r') := by
  intro tag
  rw [readerAt, readerAt]
  split
  · exact .some h
  · exact .none

lemma alike_listSlices (s : Wire.Scalar) (label : String) :
    (listReader s label).IsAlike (listSlices s label) := by
  intro found budget values bytes
  simp only [listReader, listSlices]
  split
  · exact Wire.alike_readSlice (steadyStep_readElement s) (fun _ _ => Alike.refl _) values bytes
  · exact Alike.refl _

lemma alike_submessage (s : Submessage) (found : Wire.WireType) (budget : Nat) (raw : s.Raw)
    (bytes : Bytes) :
    Alike (s.merge found budget raw bytes) (s.mergeSlice found budget raw bytes) :=
  Wire.alike_mergeSlice s.isSteady (IsAlike.refl _) s.wireName found budget raw bytes

/-- Every form of field is read alike in place and in slices. -/
lemma alike_slices (name : String) (own : Nat) (f : Form) :
    IsAlike (f.readers name own) (f.slices name own) := by
  cases f with
  | single d | optional d | inlined s => exact IsAlike.refl _
  | list d => exact alike_readerAt own (alike_listSlices d.scalar name)
  | record s | optionalRecord s =>
      refine alike_readerAt own fun found budget current bytes => ?_
      exact (alike_submessage s found budget _ bytes).bind fun _ => Alike.refl _
  | records s =>
      refine alike_readerAt own fun found budget values bytes => ?_
      exact (alike_submessage s found budget s.blank bytes).bind fun _ => Alike.refl _
  | choice as =>
      exact Wire.alike_oneOfReader _ _ _ fun i => alike_submessage (as.get i).submessage

end Form

namespace Frame

open Wire (IsAlike)

lemma alike_branchSlices (d : Domain) : IsAlike (branchReaders d) (branchSlices d) :=
  Wire.alike_oneOfReader _ _ _ fun k found budget raw bytes =>
    Wire.alike_mergeSlice (Kind.shape k).isSteady
      (Wire.alike_rowReader (fun f : Field => f.form.alike_slices f.name f.tag) _) _ found budget
      raw bytes

lemma alike_slices : IsAlike readers slices :=
  Wire.alike_oneOfReader _ _ _ fun d found budget branch bytes =>
    Wire.alike_mergeSlice (isSteady_branch d) (alike_branchSlices d) messageName found budget branch
      bytes

/-- A byte string is read as a frame just when it is read as that frame slice by slice. -/
theorem decode_eq_ok_iff_slices (bytes : Bytes) (f : Frame) :
    decode bytes = .ok f ↔ decodeSlices bytes = .ok f := by
  have hloop := Wire.alike_readUntil (Wire.alike_mergeRecord alike_slices messageName Wire.maxDepth)
    0 bytes.length none bytes
  exact hloop.bind (fun _ => Alike.refl _) f

end Frame

/-! ### Strict nesting -/

open Wire (IsKey IsNumber IsRecord Merges)

/-- Whole records of a layer, and wherever a message stands within it, whole records of that message
up to its end. -/
inductive Nested : Layer → Bytes → Prop
  /-- No record. -/
  | nil (l : Layer) : Nested l []
  /-- A record at whose tag no message stands, before the others. -/
  | flat {l : Layer} {key : Wire.Key} {depth : Nat} {r bytes : Bytes} (hr : IsRecord r key depth)
      (hflat : l.within? key.tag = none) (h : Nested l bytes) : Nested l (r ++ bytes)
  /-- A message within the layer, before the other records. -/
  | inside {l inner : Layer} {tag : Nat} {k w content bytes : Bytes}
      (hinner : l.within? tag = some inner) (hk : IsKey k ⟨tag, .lengthDelimited⟩)
      (hw : IsNumber w content.length) (hcontent : Nested inner content) (h : Nested l bytes) :
      Nested l (k ++ (w ++ content) ++ bytes)

/-- What is read of a layer is strictly nested: a message within it is read to its end, and that
message is lower. -/
lemma Layer.nested_of_merges (l : Layer) {budget : Nat} {s t : l.Value} {bytes : Bytes}
    (h : Merges l.name l.readers budget s bytes t) : Nested l bytes := by
  obtain ⟨ws, rfl, hws⟩ := h
  induction hws with
  | nil _ => exact .nil l
  | cons hw _ ih =>
      obtain ⟨⟨tag, wireType⟩, depth, k, v, rfl, hk, hv⟩ := hw.exists_isRecord l.takesValues
      rw [List.flatten_cons]
      cases hinner : l.within? tag with
      | none => exact .flat ⟨k, v, rfl, hk, hv⟩ hinner ih
      | some inner =>
          obtain ⟨field, hfield⟩ := Option.isSome_iff_exists.mp (l.isSome_readers_of_within? hinner)
          have hholds := l.reads hfield
          rw [hinner] at hholds
          obtain ⟨part, put, hread⟩ := hholds
          obtain ⟨rfl, left, x, content, _, -, rfl, hx, hcontent, -⟩ :=
            hw.exists_content hfield hread inner.isSteady hk
          have hlower := height_within? hinner
          exact .inside hinner hk hx (inner.nested_of_merges hcontent) ih
termination_by l.height

/-- Every frame that is accepted is strictly nested. -/
theorem Frame.nested_of_decode {bytes : Bytes} {f : Frame} (h : decode bytes = .ok f) :
    Nested .frame bytes :=
  Layer.frame.nested_of_merges ((Wire.merge_eq_ok_iff isSteady).mp h)

/-- A command with an unknown number in it, which ends where the message of its domain ends. -/
example : (Frame.decode [0x1a, 5, 0x9a, 1, 2, 0x08, 0]).isOk = true := by decide

/-- The same command, when the message of its domain ends before the number. -/
example : Frame.decode [0x1a, 3, 0x9a, 1, 2, 0x08, 0] =
    .error ⟨[("Message", "msg")], .overrun⟩ := by decide

end RadioFrame
