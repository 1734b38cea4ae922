import Mathlib.Data.Nat.Digits.Lemmas
import RadioFrame.Proofs.Row
import RadioFrame.Proofs.Schema.Checking

/-!
What a check asks, as a list.

A constraint says what is asked of one value (`Constraint.allows`) and which flaw the value has
otherwise (`Constraint.flaw`). A requirement is a constraint on what stands at a field. The
requirements of a raw body are listed field by field, in the order in which the fields are declared:
`Shape.requirements`.

* `Decides`: a check fails with the first requirement that is not kept, and succeeds when all are;
* `Decides.bind`, `decides_tryEach`, `decides_tryMap`: chains, lists and rows of such checks;
* `Datum.decides`, `Form.decides`, `Shape.decides`: the checks of the library are such checks;
* `Shape.asked_mem`: what is asked of a raw body is what the description of its fields names.
-/

namespace RadioFrame

/-! ### Constraints -/

/-- What a constraint looks at: what stands at a field. -/
inductive Item where
  /-- Nothing. -/
  | absent
  /-- A submessage. -/
  | message
  /-- A number. -/
  | number (n : Int)
  /-- Bytes. -/
  | bytes (bytes : Bytes)

/-- What is asked of a value. -/
inductive Constraint where
  /-- It has no more bytes than so many. -/
  | atMost (bound : Nat)
  /-- It has just so many bytes. -/
  | exactly (length : Nat)
  /-- It is one of the numbers. -/
  | declared (numbers : List Int)
  /-- It is one of the numbers when only its top byte is looked at. -/
  | declaredOnTop (numbers : List Int)
  /-- It is a number that fits so many bytes. -/
  | fits (width : Nat)
  /-- It is there. -/
  | present
  deriving DecidableEq

namespace Constraint

/-- What is left of a number of 32 bits when all but the top byte is cleared. -/
def topByte (n : Int) : Int := n / 2 ^ 24 * 2 ^ 24

/-- Whether a constraint is kept. -/
def allows : Constraint → Item → Bool
  | atMost bound, .bytes bs => bs.length ≤ bound
  | exactly length, .bytes bs => bs.length = length
  | declared numbers, .number n => n ∈ numbers
  | declaredOnTop numbers, .number n => topByte n ∈ numbers
  | fits width, .number n => n < 256 ^ width
  | present, .absent => false
  | _, _ => true

/-- The flaw of a value that does not keep a constraint. -/
def flaw : Constraint → Item → Flaw
  | atMost bound, .bytes bs => .overflow ⟨bs.length, bound⟩
  | exactly length, .bytes bs => .wrongLength length bs.length
  | declared _, .number n => .unknownNumber (Int32.ofInt n)
  | declaredOnTop _, .number n => .unknownNumber (Int32.ofInt (topByte n))
  | fits width, .number n => .overflow ⟨(Nat.digits 256 n.toNat).length, width⟩
  | _, _ => .missing

end Constraint

/-- A constraint on what stands at a field. -/
structure Requirement where
  /-- The field. -/
  field : String
  /-- What is asked. -/
  constraint : Constraint
  /-- What stands there. -/
  item : Item

namespace Requirement

/-- Whether the requirement is kept. -/
def kept (r : Requirement) : Bool := r.constraint.allows r.item

/-- The violation there is when it is not. -/
def violation (r : Requirement) : Violation := ⟨r.field, r.constraint.flaw r.item⟩

end Requirement

/-- The violation of the first requirement that is not kept. -/
def firstViolation (rs : List Requirement) : Option Violation :=
  (rs.find? fun r => !r.kept).map Requirement.violation

/-! ### The requirements of raw values -/

/-- What stands at the field of a simple value. -/
def Wire.Scalar.item : (s : Wire.Scalar) → s.Value → Item
  | .uint32, n => .number (UInt32.toNat n)
  | .uint64, n => .number (UInt64.toNat n)
  | .int32, n => .number (Int32.toInt n)
  | .bool, b => .number (Bool.toNat b)
  | .bytes, bs => .bytes bs

/-- The numbers of the words of a vocabulary. -/
def Vocabulary.declared (v : Vocabulary) : List Int := v.numbers.map Int32.toInt

namespace Datum

/-- What is asked of a simple value, if anything. -/
def constraint? : Datum → Option Constraint
  | natural32 | natural64 | integer | flag => none
  | word v => some (.declared v.declared)
  | payload bound => some (.atMost bound)
  | block length => some (.exactly length)
  | address => some (.exactly 6)
  | channels => some (.exactly 5)
  | capability => some (.declaredOnTop radioDomain.declared)

/-- What is asked of a simple value at a field of a given name. -/
def requirements (name : String) (d : Datum) (raw : d.Raw) : List Requirement :=
  d.constraint?.toList.map fun c => ⟨name, c, d.scalar.item raw⟩

end Datum

/-- What is asked of a submessage. -/
def Submessage.requirements (s : Submessage) (raw : s.Raw) : List Requirement :=
  (raw.toList fun m v => m.datum.requirements m.name v).flatten

/-- What is asked of a submessage that has to be there. -/
def presentRequirements (name : String) (content : Option (List Requirement)) : List Requirement :=
  match content with
  | none => [⟨name, .present, .absent⟩]
  | some rs => ⟨name, .present, .message⟩ :: rs

/-- What is asked of a field of a given name. -/
def Form.requirements (name : String) : (f : Form) → f.Raw → List Requirement
  | .single d, v => d.requirements name v
  | .optional d, v => (Option.toList (α := d.Raw) v).flatMap (d.requirements name)
  | .list d, vs => List.flatMap (d.requirements name) vs
  | .record s, v => presentRequirements name (Option.map s.requirements v)
  | .optionalRecord s, v => (Option.toList (α := s.Raw) v).flatMap s.requirements
  | .records s, vs => List.flatMap s.requirements vs
  | .choice as, v =>
      presentRequirements name
        (Option.map (fun c : OneOf fun i : Fin as.length => (as.get i).submessage.Raw =>
          (as.get c.member).submessage.requirements c.value) v)
  | .inlined s, v => s.requirements v

/-- What is asked of the fields of a body, in the order in which they are declared. -/
def Shape.requirements (s : Shape) (raw : s.Raw) : List Requirement :=
  (raw.toList fun f v => f.form.requirements f.name v).flatten

/-! ### Checks that decide requirements -/

lemma firstViolation_append (as bs : List Requirement) :
    firstViolation (as ++ bs) = (firstViolation as).or (firstViolation bs) := by
  rw [firstViolation, List.find?_append, Option.map_or]
  rfl

lemma firstViolation_eq_none_iff {rs : List Requirement} :
    firstViolation rs = none ↔ ∀ r ∈ rs, r.kept = true := by
  rw [firstViolation, Option.map_eq_none_iff, List.find?_eq_none]
  simp

/-- The violation with which a check fails, if it does. -/
def failure? {β : Type} : Except Violation β → Option Violation
  | .ok _ => none
  | .error v => some v

/-- A check fails with the first requirement that is not kept, and succeeds when all are. -/
def Decides {β : Type} (x : Except Violation β) (rs : List Requirement) : Prop :=
  failure? x = firstViolation rs

section Decides

variable {α β : Type} {rs rs' : List Requirement}

/-- A check that cannot fail asks nothing. -/
lemma decides_ok (b : β) : Decides (.ok b) [] := rfl

/-- One requirement after the other. -/
lemma Decides.bind {x : Except Violation α} {f : α → Except Violation β} (hx : Decides x rs)
    (hf : ∀ a, x = .ok a → Decides (f a) rs') : Decides (x >>= f) (rs ++ rs') := by
  rw [Decides] at hx ⊢
  rw [firstViolation_append, ← hx]
  cases x with
  | error v => rfl
  | ok a => exact hf a rfl

/-- What is made of the result does not matter. -/
lemma Decides.map {x : Except Violation α} (g : α → β) (hx : Decides x rs) :
    Decides (do let a ← x; .ok (g a)) rs := by
  have hbind := hx.bind (f := fun a => .ok (g a)) fun a _ => decides_ok (g a)
  rwa [List.append_nil] at hbind

/-- A check that succeeds just when one requirement is kept. -/
lemma decides_singleton {x : Except Violation β} {r : Requirement}
    (hkept : r.kept = true → ∃ b, x = .ok b) (hbroken : r.kept = false → x = .error r.violation) :
    Decides x [r] := by
  cases h : r.kept with
  | true =>
      obtain ⟨b, rfl⟩ := hkept h
      exact (firstViolation_eq_none_iff.mpr fun q hq => (List.mem_singleton.mp hq) ▸ h).symm
  | false =>
      have hfind : [r].find? (fun r => !r.kept) = some r :=
        List.find?_cons_of_pos (by rw [h]; rfl)
      rw [hbroken h, Decides, firstViolation, hfind]
      rfl

variable {f : α → Except Violation β} {asked : α → List Requirement}

/-- The requirements of a list, element by element. -/
lemma decides_tryEach (h : ∀ a, Decides (f a) (asked a)) (as : List α) :
    Decides (tryEach f as) (as.flatMap asked) := by
  induction as with
  | nil => exact decides_ok []
  | cons a as ih =>
      rw [tryEach, List.flatMap_cons]
      exact (h a).bind fun b _ => ih.map fun bs => b :: bs

/-- The requirements of a value that may be absent. -/
lemma decides_tryOption (h : ∀ a, Decides (f a) (asked a)) (a : Option α) :
    Decides (tryOption f a) (a.toList.flatMap asked) := by
  cases a with
  | none => exact decides_ok none
  | some a =>
      rw [Option.toList_some, List.flatMap_singleton]
      exact (h a).map some

/-- The requirements of a row, entry by entry. -/
lemma decides_tryMap {ι : Type} {V W : ι → Type} {check : ∀ i, V i → Except Violation (W i)}
    {asked : ∀ i, V i → List Requirement} (h : ∀ i v, Decides (check i v) (asked i v)) :
    ∀ {is : List ι} (row : Row V is), Decides (row.tryMap check) (row.toList asked).flatten
  | [], () => decides_ok _
  | i :: _, (v, row) => (h i v).bind fun w _ => (decides_tryMap h row).map fun rest => (w, rest)

end Decides

/-! ### Simple values -/

lemma Vocabulary.mem_declared_iff {v : Vocabulary} {n : Int32} :
    n.toInt ∈ v.declared ↔ ∃ w, v.ofNumber? n = some w := by
  rw [declared, List.mem_map]
  constructor
  · rintro ⟨m, hm, heq⟩
    obtain ⟨k, hk, rfl⟩ := List.getElem_of_mem hm
    rw [numbers, List.length_map] at hk
    refine ⟨⟨k, hk⟩, ofNumber?_eq_some_iff.mpr ?_⟩
    rw [← Int32.toInt_inj.mp heq]
    simp [numbers, number]
  · rintro ⟨w, hw⟩
    refine ⟨n, ?_, rfl⟩
    rw [← ofNumber?_eq_some_iff.mp hw]
    exact List.mem_map.mpr ⟨v.entries[w], List.getElem_mem _, rfl⟩

lemma Vocabulary.ofNumber?_eq_none_iff {v : Vocabulary} {n : Int32} :
    v.ofNumber? n = none ↔ n.toInt ∉ v.declared := by
  rw [mem_declared_iff, Option.eq_none_iff_forall_ne_some]
  simp

namespace DomainCapabilities

lemma domainNumber_eq (word : UInt32) :
    domainNumber word = Int32.ofInt (Constraint.topByte word.toNat) :=
  (Int32.ofInt_eq_ofNat (n := word.toNat / 0x1000000 * 0x1000000)).symm

/-- The numbers of radio domains have no sign, so it does not matter that a top byte may have. -/
lemma toInt_domainNumber_mem_iff (word : UInt32) :
    (domainNumber word).toInt ∈ radioDomain.declared ↔
      Constraint.topByte word.toNat ∈ radioDomain.declared := by
  have hdeclared : ∀ n ∈ radioDomain.declared, 0 ≤ n ∧ n < 2 ^ 31 := by decide
  have hword := word.toNat_lt
  have htop : 0 ≤ Constraint.topByte word.toNat ∧ Constraint.topByte word.toNat < 2 ^ 32 := by
    rw [Constraint.topByte]
    omega
  have hsigned : (domainNumber word).toInt = (Constraint.topByte word.toNat).bmod (2 ^ 32) := by
    rw [domainNumber_eq, Int32.toInt_ofInt]
    rfl
  have hsame : ∀ n ∈ radioDomain.declared,
      (domainNumber word).toInt = n ↔ Constraint.topByte word.toNat = n := by
    intro n hn
    have hn := hdeclared n hn
    rw [hsigned, Int.bmod_def]
    omega
  constructor
  · intro h
    rwa [(hsame _ h).mp rfl]
  · intro h
    rwa [(hsame _ h).mpr rfl]

/-- A capability word is accepted just when its top byte is declared. -/
lemma ofWord_eq (word : UInt32) :
    (Constraint.topByte word.toNat ∈ radioDomain.declared → ∃ e, ofWord word = .ok e) ∧
      (Constraint.topByte word.toNat ∉ radioDomain.declared →
        ofWord word = .error ⟨domainNumber word⟩) := by
  rw [← toInt_domainNumber_mem_iff]
  constructor
  · intro h
    obtain ⟨d, hd⟩ := Vocabulary.mem_declared_iff.mp h
    exact ⟨⟨d, .ofBits word⟩,
      ofDomainNumber_eq_ok_iff.mpr ⟨Vocabulary.ofNumber?_eq_some_iff.mp hd, rfl⟩⟩
  · intro h
    rw [ofWord, ofDomainNumber, Vocabulary.ofNumber?_eq_none_iff.mpr h]

end DomainCapabilities

namespace Datum

lemma checkLength_of_ne {length : Nat} {bytes : Bytes} (h : ¬bytes.length = length) :
    checkLength length bytes = .error (.wrongLength length bytes.length) := by
  rw [checkLength, Block.ofBytes?, dif_neg h]

lemma decides_checkLength (name : String) (length : Nat) (bytes : Bytes) :
    Decides ((checkLength length bytes).mapError fun flaw => ⟨name, flaw⟩)
      [⟨name, .exactly length, .bytes bytes⟩] := by
  refine decides_singleton (fun h => ?_) fun h => ?_
  · exact ⟨_, mapError_eq_ok.mpr
      ((exact_checkLength length bytes ⟨bytes, of_decide_eq_true h⟩).mpr rfl)⟩
  · rw [checkLength_of_ne (of_decide_eq_false h)]
    rfl

lemma decides_word (name : String) (v : Vocabulary) (n : Int32) :
    Decides
      ((match v.ofNumber? n with
        | some w => Except.ok w
        | none => .error (Flaw.unknownNumber n)).mapError fun flaw => ⟨name, flaw⟩)
      [⟨name, .declared v.declared, .number n.toInt⟩] := by
  refine decides_singleton (fun h => ?_) fun h => ?_
  · obtain ⟨w, hw⟩ := Vocabulary.mem_declared_iff.mp (of_decide_eq_true h)
    rw [hw]
    exact ⟨w, rfl⟩
  · rw [Vocabulary.ofNumber?_eq_none_iff.mpr (of_decide_eq_false h), Requirement.violation,
      Constraint.flaw, Int32.ofInt_toInt]
    rfl

lemma decides_capability (name : String) (word : UInt32) :
    Decides
      (((DomainCapabilities.ofWord word).mapError fun u => Flaw.unknownNumber u.number).mapError
        fun flaw => ⟨name, flaw⟩)
      [⟨name, .declaredOnTop radioDomain.declared, .number word.toNat⟩] := by
  obtain ⟨hok, herror⟩ := DomainCapabilities.ofWord_eq word
  refine decides_singleton (fun h => ?_) fun h => ?_
  · obtain ⟨e, he⟩ := hok (of_decide_eq_true h)
    rw [he]
    exact ⟨e, rfl⟩
  · rw [herror (of_decide_eq_false h), Requirement.violation, Constraint.flaw,
      ← DomainCapabilities.domainNumber_eq]
    rfl

/-- The check of a simple value decides what is asked of it. -/
lemma decides (name : String) (d : Datum) (raw : d.Raw) :
    Decides ((d.check raw).mapError fun flaw => ⟨name, flaw⟩) (d.requirements name raw) := by
  cases d with
  | natural32 | natural64 | integer | flag => exact decides_ok raw
  | word v => exact decides_word name v raw
  | payload bound =>
      refine decides_singleton (fun h => ?_) fun h => ?_
      · exact ⟨_, mapError_eq_ok.mpr (mapError_eq_ok.mpr (dif_pos (of_decide_eq_true h)))⟩
      · have hlong : Payload.ofBytes bound raw = .error ⟨List.length raw, bound⟩ :=
          dif_neg (of_decide_eq_false h)
        rw [check, hlong]
        rfl
  | block length => exact decides_checkLength name length raw
  | address =>
      refine decides_singleton (fun h => ?_) fun h => ?_
      · have hlength : (List.reverse raw).length = 6 :=
          List.length_reverse.trans (of_decide_eq_true h)
        have hback : BdAddress.toWire ⟨⟨List.reverse raw, hlength⟩⟩ = raw :=
          List.reverse_reverse raw
        exact ⟨_, mapError_eq_ok.mpr ((Datum.exact address raw _).mpr hback)⟩
      · have hblock : Block.ofBytes? 6 raw = none := dif_neg (of_decide_eq_false h)
        have hnone : BdAddress.ofWire? raw = none :=
          congrArg (Option.map fun octets : Block 6 => (⟨octets.reverse⟩ : BdAddress)) hblock
        rw [check, hnone]
        rfl
  | channels =>
      refine decides_singleton (fun h => ?_) fun h => ?_
      · have hback : (⟨raw, of_decide_eq_true h⟩ : Block 5).bytes = raw := rfl
        exact ⟨_, mapError_eq_ok.mpr ((Datum.exact channels raw ⟨⟨raw, _⟩⟩).mpr hback)⟩
      · have hlength : checkLength 5 raw = .error (.wrongLength 5 (List.length raw)) :=
          checkLength_of_ne (of_decide_eq_false h)
        rw [check, hlength]
        rfl
  | capability => exact decides_capability name raw

end Datum

/-! ### Fields and bodies -/

lemma Submessage.decides (s : Submessage) (raw : s.Raw) :
    Decides (s.check raw) (s.requirements raw) :=
  decides_tryMap (fun m v => m.datum.decides m.name v) raw

/-- Of something that has to be there, its presence is asked before all else. -/
lemma decides_present {β : Type} {name : String} {x : Except Violation β} {rs : List Requirement}
    (h : Decides x rs) : Decides x (presentRequirements name (some rs)) := by
  have hpresent : firstViolation [⟨name, .present, .message⟩] = none :=
    firstViolation_eq_none_iff.mpr fun r hr => (List.mem_singleton.mp hr) ▸ rfl
  have hsplit : presentRequirements name (some rs) = [⟨name, .present, .message⟩] ++ rs := rfl
  rw [Decides, hsplit, firstViolation_append, hpresent, Option.none_or]
  exact h

/-- The check of a field decides what is asked of it. -/
theorem Form.decides (name : String) (f : Form) (raw : f.Raw) :
    Decides (f.check name raw) (f.requirements name raw) := by
  cases f with
  | single d => exact d.decides name raw
  | optional d => exact decides_tryOption (d.decides name) raw
  | list d => exact decides_tryEach (d.decides name) raw
  | optionalRecord s => exact decides_tryOption s.decides raw
  | records s => exact decides_tryEach s.decides raw
  | inlined s => exact s.decides raw
  | record s =>
      cases (raw : Option s.Raw) with
      | none => rfl
      | some raw => exact decides_present (s.decides raw)
  | choice as =>
      cases (raw : Option (OneOf fun i : Fin as.length => (as.get i).submessage.Raw)) with
      | none => rfl
      | some c =>
          obtain ⟨i, raw⟩ := c
          have hmap := ((as.get i).submessage.decides raw).map fun w =>
            (⟨i, w⟩ : OneOf fun i : Fin as.length => (as.get i).submessage.Value)
          exact decides_present hmap

/-- The checks of the fields of a body, one after the other, decide what is asked of the body. -/
theorem Shape.decides (s : Shape) (raw : s.Raw) :
    Decides (raw.tryMap Field.check) (s.requirements raw) :=
  decides_tryMap (fun f v => f.form.decides f.name v) raw

/-! ### The constraints of a description -/

/-- What is asked of a simple value at a field of a given name. -/
def Datum.constraints (name : String) (d : Datum) : List (String × Constraint) :=
  d.constraint?.toList.map fun c => (name, c)

/-- What is asked of the members of a submessage. -/
def Submessage.constraints (s : Submessage) : List (String × Constraint) :=
  s.members.flatMap fun m => m.datum.constraints m.name

/-- What is asked of a field of a given name, whichever of its alternatives it holds. -/
def Form.constraints (name : String) : Form → List (String × Constraint)
  | .single d | .optional d | .list d => d.constraints name
  | .record s => (name, .present) :: s.constraints
  | .optionalRecord s | .records s | .inlined s => s.constraints
  | .choice as => (name, .present) :: as.flatMap fun a => a.submessage.constraints

/-- What is asked of the fields of a shape, in the order in which they are declared. -/
def Shape.constraints (s : Shape) : List (String × Constraint) :=
  s.fields.flatMap fun f => f.form.constraints f.name

namespace Requirement

/-- What is asked, and of which field. -/
def asked (r : Requirement) : String × Constraint := (r.field, r.constraint)

end Requirement

lemma Datum.asked_mem {name : String} {d : Datum} {raw : d.Raw} :
    ∀ r ∈ d.requirements name raw, r.asked ∈ d.constraints name := by
  intro r hr
  obtain ⟨c, hc, rfl⟩ := List.mem_map.mp hr
  exact List.mem_map.mpr ⟨c, hc, rfl⟩

/-- What is asked of a row is asked of some entry. -/
lemma asked_mem_of_row {ι : Type} {V : ι → Type} {asked : ∀ i, V i → List Requirement}
    {constraints : ι → List (String × Constraint)}
    (h : ∀ i v, ∀ r ∈ asked i v, r.asked ∈ constraints i) {is : List ι} (row : Row V is) :
    ∀ r ∈ (row.toList asked).flatten, r.asked ∈ is.flatMap constraints := by
  intro r hr
  obtain ⟨rs, hrs, hr⟩ := List.mem_flatten.mp hr
  obtain ⟨i, hi, v, rfl⟩ := Row.mem_toList hrs
  exact List.mem_flatMap.mpr ⟨i, hi, h i v r hr⟩

lemma Submessage.asked_mem {s : Submessage} (raw : s.Raw) :
    ∀ r ∈ s.requirements raw, r.asked ∈ s.constraints :=
  asked_mem_of_row (fun m _ => m.datum.asked_mem) raw

/-- What is asked of a raw field is asked by the description of the field. -/
lemma Form.asked_mem {name : String} {f : Form} (raw : f.Raw) :
    ∀ r ∈ f.requirements name raw, r.asked ∈ f.constraints name := by
  intro r hr
  cases f with
  | single d => exact Datum.asked_mem r hr
  | optional d | list d =>
      obtain ⟨v, _, hr⟩ := List.mem_flatMap.mp hr
      exact Datum.asked_mem r hr
  | optionalRecord s | records s =>
      obtain ⟨v, _, hr⟩ := List.mem_flatMap.mp hr
      exact s.asked_mem v r hr
  | inlined s => exact s.asked_mem raw r hr
  | record s =>
      cases (raw : Option s.Raw) with
      | none => exact List.mem_of_mem_head? (List.mem_singleton.mp hr ▸ rfl)
      | some raw =>
          rcases List.mem_cons.mp hr with rfl | hr
          · exact List.mem_cons_self
          · exact List.mem_cons_of_mem _ (s.asked_mem raw r hr)
  | choice as =>
      cases (raw : Option (OneOf fun i : Fin as.length => (as.get i).submessage.Raw)) with
      | none => exact List.mem_of_mem_head? (List.mem_singleton.mp hr ▸ rfl)
      | some c =>
          obtain ⟨i, raw⟩ := c
          rcases List.mem_cons.mp hr with rfl | hr
          · exact List.mem_cons_self
          · refine List.mem_cons_of_mem _ (List.mem_flatMap.mpr ⟨as.get i, List.getElem_mem _, ?_⟩)
            exact (as.get i).submessage.asked_mem raw r hr

/-- What is asked of a raw body is asked by the description of its fields. -/
lemma Shape.asked_mem {s : Shape} (raw : s.Raw) :
    ∀ r ∈ s.requirements raw, r.asked ∈ s.constraints :=
  asked_mem_of_row (fun f v => f.form.asked_mem v) raw

end RadioFrame
