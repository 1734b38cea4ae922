import RadioFrame.Proofs.Wire.Steady

/-!
One record of a message at a time, and how deep the reading of it goes.

A field is flat (`FieldReader.IsFlat`) when what it takes is a whole value and when it never goes
deeper, whatever the budget; it holds a message (`FieldReader.Holds`) when reading it is merging
that message into some part of the value. With fields of these two sorts,

* `exists_isRecord_of_mergeRecord`: whatever one step of the message takes is a whole record;
* `Consumes.exists_content`: where a message is held, the record has whole records of that message
  in it;
* `Consumes.replace_content`: the content of a message inside can be exchanged for another that
  leads to the same value, the length in front of it adjusted;
* `IsRecord.mergeRecord_unknown` and `IsRecord.mergeRecord_tooDeep`: a record of an unknown tag is
  passed over, or refused for its nesting, with nothing but the budget to decide which.

`Shallow` says of an outcome that it is no fault of nesting. It is closed under the ways in which
readers are put together, so that a fault of nesting can be traced to where the budget ran out.
-/

namespace RadioFrame.Wire

/-! ### Outcomes that are no fault of nesting -/

section Shallow

variable {α β : Type}

/-- An outcome that is no fault of nesting. -/
def Shallow (x : Except Fault α) : Prop := ∀ path, x ≠ .error ⟨path, .tooDeep⟩

lemma shallow_ok (a : α) : Shallow (.ok a) := fun _ h => nomatch h

lemma shallow_error {cause : Cause} (h : cause ≠ .tooDeep) :
    Shallow (.error (.plain cause) : Except Fault α) := by
  rintro path heq
  cases heq
  exact h rfl

lemma Shallow.bind {x : Except Fault α} {f : α → Except Fault β} (hx : Shallow x)
    (hf : ∀ a, x = .ok a → Shallow (f a)) : Shallow (x >>= f) := by
  cases x with
  | error e =>
      rintro path heq
      cases heq
      exact hx path rfl
  | ok a => exact hf a rfl

/-- A fault of nesting is one wherever it is told. -/
lemma Shallow.within {x : Except Fault α} (hx : Shallow x) (message field : String) :
    Shallow (x.mapError (.within message field)) := by
  cases x with
  | error e =>
      obtain ⟨path, cause⟩ := e
      rintro path' heq
      cases heq
      exact hx path rfl
  | ok a => exact shallow_ok a

lemma shallow_readNumber (bytes : Bytes) : Shallow (readNumber bytes) := by
  rw [readNumber]
  split
  · exact shallow_ok _
  · exact shallow_error Cause.noConfusion

lemma shallow_readKey (bytes : Bytes) : Shallow (readKey bytes) := by
  refine (shallow_readNumber bytes).bind fun p _ => ?_
  dsimp only
  split
  · exact shallow_error Cause.noConfusion
  · split
    · exact shallow_error Cause.noConfusion
    · split
      · exact shallow_error Cause.noConfusion
      · exact shallow_ok _

lemma shallow_readRun (n : Nat) (bytes : Bytes) : Shallow (readRun n bytes) := by
  rw [readRun]
  split
  · exact shallow_ok _
  · exact shallow_error Cause.noConfusion

lemma shallow_readSized (bytes : Bytes) : Shallow (readSized bytes) :=
  (shallow_readNumber bytes).bind fun p _ => shallow_readRun p.1 p.2

lemma shallow_expect (expected found : WireType) : Shallow (expect expected found) := by
  rw [expect]
  split
  · exact shallow_ok _
  · exact shallow_error Cause.noConfusion

lemma Scalar.shallow_readValue (s : Scalar) (bytes : Bytes) : Shallow (s.readValue bytes) := by
  cases s with
  | bytes => exact shallow_readSized bytes
  | uint32 | uint64 | int32 | bool =>
      exact (shallow_readNumber bytes).bind fun p _ => shallow_ok _

lemma Scalar.shallow_read (s : Scalar) (found : WireType) (bytes : Bytes) :
    Shallow (s.read found bytes) :=
  (shallow_expect s.wireType found).bind fun _ _ => s.shallow_readValue bytes

/-- Only groups nest: any other value is passed over with the least budget, or is at fault itself.
-/
lemma shallow_skip {key : Key} (hkey : key.wireType ≠ .startGroup) (budget : Nat) (bytes : Bytes) :
    Shallow (skip (budget + 1) key bytes) := by
  obtain ⟨tag, wireType⟩ := key
  cases wireType with
  | varint => exact (shallow_readNumber bytes).bind fun _ _ => shallow_ok _
  | sixtyFourBit | thirtyTwoBit => exact (shallow_readRun _ bytes).bind fun _ _ => shallow_ok _
  | lengthDelimited => exact (shallow_readSized bytes).bind fun _ _ => shallow_ok _
  | startGroup => exact absurd rfl hkey
  | endGroup => exact shallow_error Cause.noConfusion

lemma shallow_readUntil {σ : Type} {limit : Nat} {step : σ → Bytes → Except Fault (σ × Bytes)}
    (hstep : ∀ s bytes, Shallow (step s bytes)) :
    ∀ fuel s bytes, Shallow (readUntil limit step fuel s bytes)
  | 0, s, bytes => shallow_ok (s, bytes)
  | fuel + 1, s, bytes => by
      rw [readUntil]
      split
      · exact shallow_ok _
      · exact (hstep s bytes).bind fun p _ => shallow_readUntil hstep fuel p.1 p.2

/-- What stands behind a length is shallow if the loop up to that length is. -/
lemma shallow_readDelimited {σ : Type} {step : σ → Bytes → Except Fault (σ × Bytes)} {s : σ}
    {bytes : Bytes}
    (hloop : ∀ n content, readNumber bytes = .ok (n, content) → n ≤ content.length →
      Shallow (readUntil (content.length - n) step content.length s content)) :
    Shallow (readDelimited step s bytes) := by
  refine (shallow_readNumber bytes).bind ?_
  rintro ⟨n, content⟩ hn
  dsimp only
  split
  · exact shallow_error Cause.noConfusion
  · next hfits =>
      refine (hloop n content hn (Nat.le_of_not_lt hfits)).bind ?_
      rintro ⟨t, rest⟩ _
      dsimp only
      split
      · exact shallow_ok _
      · exact shallow_error Cause.noConfusion

end Shallow

/-! ### Fields of simple values, and fields that hold messages -/

section Readers

variable {α β σ τ : Type}

/-- What a field takes is a whole value of the layout that was found. -/
def FieldReader.TakesValues (field : FieldReader σ) : Prop :=
  ∀ ⦃found budget s bytes t rest⦄, field.read found budget s bytes = .ok (t, rest) →
    ∃ depth w, bytes = w ++ rest ∧ ∀ tag, IsValue ⟨tag, found⟩ depth w

/-- A field of simple values: none of its faults is one of nesting. -/
structure FieldReader.IsFlat (field : FieldReader σ) : Prop where
  /-- What it takes is a whole value. -/
  takesValues : field.TakesValues
  /-- It never goes deeper. -/
  shallow : ∀ found budget s bytes, Shallow (field.read found budget s bytes)

/-- A field that holds a message: a part of the value is what the message is merged into. -/
def FieldReader.Holds (field : FieldReader σ) (name : String) (fields : FieldReaders τ) : Prop :=
  ∃ (part : σ → τ) (put : σ → τ → σ), ∀ found budget s bytes,
    field.read found budget s bytes =
      mergeDelimited name fields found budget (part s) bytes >>= fun p => .ok (put s p.1, p.2)

/-- A simple value is a whole value. -/
lemma Scalar.exists_isValue_of_read (s : Scalar) {found : WireType} {bytes rest : Bytes}
    {v : s.Value} (h : s.read found bytes = .ok (v, rest)) :
    ∃ w, bytes = w ++ rest ∧ ∀ tag, IsValue ⟨tag, found⟩ 1 w := by
  obtain ⟨_, hexpect, hvalue⟩ := bind_eq_ok.mp h
  obtain rfl := expect_eq_ok_iff.mp hexpect
  cases s with
  | bytes =>
      obtain ⟨w, rfl, hw⟩ := readSized_eq_ok_iff.mp hvalue
      exact ⟨w ++ _, (List.append_assoc _ _ _).symm, fun _ => .sized hw⟩
  | uint32 | uint64 | int32 | bool =>
      obtain ⟨⟨n, r⟩, hn, hok⟩ := bind_eq_ok.mp hvalue
      cases hok
      obtain ⟨w, rfl, hw⟩ := readNumber_eq_ok_iff.mp hn
      exact ⟨w, rfl, fun _ => .number hw⟩

lemma FieldReader.TakesValues.onFirst {r : FieldReader α} (h : r.TakesValues) :
    (r.onFirst : FieldReader (α × β)).TakesValues := by
  intro found budget s bytes t rest hread
  obtain ⟨⟨a, r⟩, ha, hok⟩ := bind_eq_ok.mp hread
  cases hok
  exact h ha

lemma FieldReader.TakesValues.onSecond {r : FieldReader β} (h : r.TakesValues) :
    (r.onSecond : FieldReader (α × β)).TakesValues := by
  intro found budget s bytes t rest hread
  obtain ⟨⟨b, r⟩, hb, hok⟩ := bind_eq_ok.mp hread
  cases hok
  exact h hb

lemma FieldReader.IsFlat.onFirst {r : FieldReader α} (h : r.IsFlat) :
    (r.onFirst : FieldReader (α × β)).IsFlat where
  takesValues := h.takesValues.onFirst
  shallow found budget s bytes :=
    (h.shallow found budget s.1 bytes).bind fun _ _ => shallow_ok _

lemma FieldReader.IsFlat.onSecond {r : FieldReader β} (h : r.IsFlat) :
    (r.onSecond : FieldReader (α × β)).IsFlat where
  takesValues := h.takesValues.onSecond
  shallow found budget s bytes :=
    (h.shallow found budget s.2 bytes).bind fun _ _ => shallow_ok _

variable {name : String} {fields : FieldReaders τ}

lemma FieldReader.Holds.onFirst {r : FieldReader α} (h : r.Holds name fields) :
    (r.onFirst : FieldReader (α × β)).Holds name fields := by
  obtain ⟨part, put, hread⟩ := h
  refine ⟨fun s => part s.1, fun s v => (put s.1 v, s.2), fun found budget s bytes => ?_⟩
  change (r.read found budget s.1 bytes >>= fun p => .ok ((p.1, s.2), p.2)) = _
  rw [hread, bind_assoc]
  rfl

lemma FieldReader.Holds.onSecond {r : FieldReader β} (h : r.Holds name fields) :
    (r.onSecond : FieldReader (α × β)).Holds name fields := by
  obtain ⟨part, put, hread⟩ := h
  refine ⟨fun s => part s.2, fun s v => (s.1, put s.2 v), fun found budget s bytes => ?_⟩
  change (r.read found budget s.2 bytes >>= fun p => .ok ((s.1, p.1), p.2)) = _
  rw [hread, bind_assoc]
  rfl

/-- One of several exclusive messages is merged into its own value, or into a blank one. -/
lemma holds_oneOf {ι : Type} [DecidableEq ι] {V : ι → Type} {label : String}
    {ofTag? : Nat → Option ι} {blank : ∀ i, V i} (name : ι → String)
    (fields : ∀ i, FieldReaders (V i)) {tag : Nat} {i : ι}
    {field : FieldReader (Option (OneOf V))} (hi : ofTag? tag = some i)
    (h : oneOfReader label ofTag? blank (fun i => mergeDelimited (name i) (fields i)) tag
      = some field) : field.Holds (name i) (fields i) := by
  rw [oneOfReader, hi] at h
  cases h
  exact ⟨fun s => OneOf.valueAt blank s i, fun _ v => some ⟨i, v⟩, fun _ _ _ _ => rfl⟩

/-- A message inside a message is a length and as many bytes. -/
lemma FieldReader.Holds.takesValues {field : FieldReader σ} (h : field.Holds name fields)
    (hfields : Wire.IsSteady fields) : field.TakesValues := by
  obtain ⟨part, put, hread⟩ := h
  intro found budget s bytes t rest ht
  rw [hread] at ht
  obtain ⟨⟨v, r⟩, hv, hok⟩ := bind_eq_ok.mp ht
  cases hok
  obtain ⟨rfl, left, w, content, _, rfl, hw, _⟩ := (mergeDelimited_eq_ok_iff hfields).mp hv
  exact ⟨1, w ++ content, (List.append_assoc _ _ _).symm, fun _ => .sized hw⟩

end Readers

/-! ### One record of a message -/

section Records

variable {σ τ : Type} {fields : FieldReaders σ} {name : String} {budget : Nat} {s t : σ}

/-- What follows a key is read as the field of its tag says, or passed over. -/
lemma IsKey.mergeRecord {k : Bytes} {key : Key} (hk : IsKey k key) (bytes : Bytes) :
    mergeRecord name fields budget s (k ++ bytes) =
      match fields key.tag with
      | some field => (field.read key.wireType budget s bytes).mapError (.within name field.label)
      | none => skip budget key bytes >>= fun rest => .ok (s, rest) := by
  cases hfield : fields key.tag with
  | none | some _ =>
      rw [Wire.mergeRecord, hk.read, ok_bind]
      dsimp only
      rw [hfield]

/-- A record of an unknown tag is passed over and nothing else, if it is not nested too deep. -/
lemma IsRecord.mergeRecord_unknown {u : Bytes} {key : Key} {depth : Nat} (hu : IsRecord u key depth)
    (hunknown : fields key.tag = none) (hle : depth ≤ budget) (rest : Bytes) :
    mergeRecord name fields budget s (u ++ rest) = .ok (s, rest) := by
  obtain ⟨k, v, rfl, hk, hv⟩ := hu
  rw [List.append_assoc, hk.mergeRecord, hunknown]
  exact bind_eq_ok.mpr ⟨rest, hv.skip rest hle, rfl⟩

/-- A record of an unknown tag that is nested deeper than the budget allows is refused for it. -/
lemma IsRecord.mergeRecord_tooDeep {u : Bytes} {key : Key} {depth : Nat} (hu : IsRecord u key depth)
    (hunknown : fields key.tag = none) (hlt : budget < depth) (rest : Bytes) :
    mergeRecord name fields budget s (u ++ rest) = .error (.plain .tooDeep) := by
  obtain ⟨k, v, rfl, hk, hv⟩ := hu
  rw [List.append_assoc, hk.mergeRecord, hunknown]
  dsimp only
  rw [hv.skip_eq_tooDeep rest hlt, error_bind]

/-- Fields all of which take whole values. -/
def TakesValues (fields : FieldReaders σ) : Prop :=
  ∀ ⦃tag field⦄, fields tag = some field → field.TakesValues

/-- What one step of a message takes is a whole record. -/
lemma exists_isRecord_of_mergeRecord (hfields : TakesValues fields) {bytes rest : Bytes}
    (h : mergeRecord name fields budget s bytes = .ok (t, rest)) :
    ∃ r key depth, bytes = r ++ rest ∧ IsRecord r key depth := by
  obtain ⟨⟨key, r⟩, hkey, _⟩ := bind_eq_ok.mp h
  obtain ⟨k, rfl, hk⟩ := readKey_eq_ok_iff.mp hkey
  rw [hk.mergeRecord] at h
  have hvalue : ∃ depth v, r = v ++ rest ∧ IsValue key depth v := by
    cases hfield : fields key.tag with
    | none =>
        rw [hfield] at h
        obtain ⟨r', hskip, hok⟩ := bind_eq_ok.mp h
        cases hok
        obtain ⟨depth, v, hr, hv, _⟩ := skip_eq_ok_iff.mp hskip
        exact ⟨depth, v, hr, hv⟩
    | some field =>
        rw [hfield] at h
        obtain ⟨depth, v, hr, hv⟩ := hfields hfield (mapError_eq_ok.mp h)
        exact ⟨depth, v, hr, hv key.tag⟩
  obtain ⟨depth, v, rfl, hv⟩ := hvalue
  exact ⟨k ++ v, key, depth, (List.append_assoc _ _ _).symm, k, v, rfl, hk, hv⟩

lemma Consumes.exists_isRecord (hfields : TakesValues fields) {w : Bytes}
    (h : Consumes (mergeRecord name fields budget) s w t) : ∃ key depth, IsRecord w key depth := by
  obtain ⟨r, key, depth, hr, hrecord⟩ := exists_isRecord_of_mergeRecord hfields (h.2 [])
  rw [List.append_nil, List.append_nil] at hr
  exact ⟨key, depth, hr ▸ hrecord⟩

/-- Of whole records, the first is read by itself. -/
lemma Merges.of_append (hfields : TakesValues fields) {r bytes : Bytes} {key : Key} {depth : Nat}
    (hr : IsRecord r key depth) (h : Merges name fields budget s (r ++ bytes) t) :
    ∃ u, Consumes (mergeRecord name fields budget) s r u ∧ Merges name fields budget u bytes t := by
  obtain ⟨ws, hbytes, hws⟩ := h
  cases hws with
  | nil =>
      have hpos := hr.length_pos
      have hlen := congrArg List.length hbytes
      rw [List.length_append, List.flatten_nil, List.length_nil] at hlen
      omega
  | @cons _ u _ w ws hw hrest =>
      obtain ⟨key', depth', hrecord⟩ := hw.exists_isRecord hfields
      rw [List.flatten_cons] at hbytes
      obtain ⟨rfl, rfl⟩ := hr.eq_of_append hrecord hbytes
      exact ⟨u, hw, ws, rfl, hrest⟩

/-- One record of a group of exclusive fields: an unknown tag changes nothing, another sets its own
field, whatever was set. -/
lemma Consumes.cases_of_oneOf {ι : Type} [DecidableEq ι] {V : ι → Type} {label name : String}
    {ofTag? : Nat → Option ι} {blank : ∀ i, V i}
    {read : ∀ i, WireType → Nat → V i → Bytes → Except Fault (V i × Bytes)} {budget : Nat}
    {s t : Option (OneOf V)} {k w : Bytes} {key : Key}
    (h : Consumes (mergeRecord name (oneOfReader label ofTag? blank read) budget) s (k ++ w) t)
    (hk : IsKey k key) :
    (ofTag? key.tag = none ∧ t = s) ∨
      ∃ i v, ofTag? key.tag = some i ∧ t = some ⟨i, v⟩ ∧
        read i key.wireType budget (OneOf.valueAt blank s i) w = .ok (v, []) := by
  have hstep := h.2 []
  rw [List.append_nil, hk.mergeRecord, oneOfReader] at hstep
  cases hi : ofTag? key.tag with
  | none =>
      rw [hi] at hstep
      obtain ⟨_, _, hok⟩ := bind_eq_ok.mp hstep
      cases hok
      exact .inl ⟨rfl, rfl⟩
  | some i =>
      rw [hi] at hstep
      obtain ⟨⟨v, r⟩, hv, hok⟩ := bind_eq_ok.mp (mapError_eq_ok.mp hstep)
      cases hok
      exact .inr ⟨i, v, rfl, rfl, hv⟩

/-- One record of a group of exclusive messages holds the message of its tag, and nothing else. -/
lemma merges_oneOf_iff {ι : Type} [DecidableEq ι] {V : ι → Type} {label : String}
    {ofTag? : Nat → Option ι} {blank : ∀ i, V i} (inside : ι → String)
    (inner : ∀ i, FieldReaders (V i)) (hinner : ∀ i, IsSteady (inner i)) {tag : Nat} {i : ι}
    (hi : ofTag? tag = some i) {k w content : Bytes} (hk : IsKey k ⟨tag, .lengthDelimited⟩)
    (hw : IsNumber w content.length) {t : Option (OneOf V)} :
    Merges name (oneOfReader label ofTag? blank fun i => mergeDelimited (inside i) (inner i))
        (budget + 1) none (k ++ (w ++ content)) t ↔
      ∃ v, t = some ⟨i, v⟩ ∧ Merges (inside i) (inner i) budget (blank i) content v := by
  constructor
  · intro h
    have hvalues : TakesValues (oneOfReader label ofTag? blank fun i =>
        mergeDelimited (inside i) (inner i)) := fun tag field hfield => by
      obtain ⟨j, hj, _⟩ := Option.map_eq_some_iff.mp hfield
      exact (holds_oneOf inside inner hj hfield).takesValues (hinner j)
    have hrecord : IsRecord (k ++ (w ++ content)) ⟨tag, .lengthDelimited⟩ 1 :=
      ⟨k, w ++ content, rfl, hk, .sized hw⟩
    rw [← List.append_nil (k ++ (w ++ content))] at h
    obtain ⟨u, hu, hrest⟩ := h.of_append hvalues hrecord
    obtain rfl := hrest.eq_of_nil
    rcases hu.cases_of_oneOf hk with ⟨hno, _⟩ | ⟨j, v, hj, rfl, hread⟩
    · rw [hi] at hno
      cases hno
    · rw [hi] at hj
      cases hj
      obtain ⟨_, left, x, c, hleft, hbytes, hx, hc⟩ :=
        (mergeDelimited_eq_ok_iff (hinner i)).mp hread
      cases hleft
      rw [List.append_nil] at hbytes
      obtain ⟨_, rfl⟩ := hw.eq_of_append hx hbytes
      exact ⟨v, rfl, hc⟩
  · rintro ⟨v, rfl, hcontent⟩
    have hpos := hk.length_pos
    rw [← List.append_nil (k ++ (w ++ content))]
    refine Merges.cons ⟨fun hnil => ?_, fun rest => ?_⟩ (.nil _ _ _ _)
    · have hlen := congrArg List.length hnil
      rw [List.length_append, List.length_nil] at hlen
      omega
    · rw [List.append_assoc, hk.mergeRecord, oneOfReader, hi]
      refine mapError_eq_ok.mpr (bind_eq_ok.mpr ⟨(v, rest), ?_, rfl⟩)
      exact (mergeDelimited_eq_ok_iff (hinner i)).mpr
        ⟨rfl, budget, w, content, rfl, List.append_assoc _ _ _, hw, hcontent⟩

section Content

variable {inside : String} {inner : FieldReaders τ} {field : FieldReader σ}

/-- What one step takes at the tag of a message inside is a length and as many bytes, which are
whole records of that message. -/
lemma Consumes.exists_content {key : Key} {part : σ → τ} {put : σ → τ → σ}
    (hfield : fields key.tag = some field)
    (hread : ∀ found budget s bytes, field.read found budget s bytes =
      mergeDelimited inside inner found budget (part s) bytes >>= fun p => .ok (put s p.1, p.2))
    (hinner : IsSteady inner) {k v : Bytes} (hk : IsKey k key)
    (h : Consumes (mergeRecord name fields budget) s (k ++ v) t) :
    key.wireType = .lengthDelimited ∧ ∃ left w content q, budget = left + 1 ∧ v = w ++ content ∧
      IsNumber w content.length ∧ Merges inside inner left (part s) content q ∧ t = put s q := by
  have hstep := h.2 []
  rw [List.append_nil, hk.mergeRecord, hfield] at hstep
  dsimp only at hstep
  rw [mapError_eq_ok, hread] at hstep
  obtain ⟨⟨q, r⟩, hq, hok⟩ := bind_eq_ok.mp hstep
  cases hok
  obtain ⟨hfound, left, w, content, hleft, hbytes, hw, hcontent⟩ :=
    (mergeDelimited_eq_ok_iff hinner).mp hq
  rw [List.append_nil] at hbytes
  exact ⟨hfound, left, w, content, q, hleft, hbytes, hw, hcontent, rfl⟩

/-- The content of a message inside can be exchanged for another that leads to the same value, if
the length in front of it is adjusted. -/
lemma Consumes.replace_content {tag : Nat} (hfield : fields tag = some field)
    (hholds : field.Holds inside inner) (hinner : IsSteady inner) {k w w' content content' : Bytes}
    (hk : IsKey k ⟨tag, .lengthDelimited⟩) (hw : IsNumber w content.length)
    (hw' : IsNumber w' content'.length)
    (hcontent : ∀ {p q}, Merges inside inner budget p content q →
      Merges inside inner budget p content' q)
    (h : Consumes (mergeRecord name fields (budget + 1)) s (k ++ (w ++ content)) t) :
    Consumes (mergeRecord name fields (budget + 1)) s (k ++ (w' ++ content')) t := by
  obtain ⟨part, put, hread⟩ := hholds
  obtain ⟨_, left, x, c, q, hleft, hbytes, hx, hc, rfl⟩ := h.exists_content hfield hread hinner hk
  cases hleft
  -- the length says where the content begins, so there is one way only to take the value apart
  obtain ⟨_, rfl⟩ := hw.eq_of_append hx hbytes
  have hpos := hk.length_pos
  refine ⟨fun hnil => ?_, fun rest => ?_⟩
  · have hlen := congrArg List.length hnil
    rw [List.length_append, List.length_nil] at hlen
    omega
  · rw [List.append_assoc, hk.mergeRecord, hfield]
    dsimp only
    rw [mapError_eq_ok, hread]
    exact bind_eq_ok.mpr ⟨(q, rest), (mergeDelimited_eq_ok_iff hinner).mpr
      ⟨rfl, budget, w', content', rfl, List.append_assoc _ _ _, hw', hcontent hc⟩, rfl⟩

end Content

end Records

end RadioFrame.Wire
