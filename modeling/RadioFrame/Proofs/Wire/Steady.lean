import RadioFrame.Proofs.Wire.Grammar
import RadioFrame.Proofs.Wire.Record

/-!
Readers that look at no byte but those they take.

A reader is steady (`Steady`) when each of its successes is due to the bytes that it took alone:
the same bytes give the same value whatever follows them. A length is held against all bytes that
are left, and a field inside a message may run past the end of the message before that is noticed;
but once the reading has succeeded, neither has looked at what is left.

* `steady_of_iff`: what the grammar of records tells is steady: numbers, keys, unknown fields;
* `Steady.bind`: so are readers one after the other, and with them simple values;
* `steady_readDelimited`: a length and steps up to it. What the loop takes is a list of byte
  strings, one for each step (`leads_of_readUntil`), so that it can be read again before other
  bytes;
* `isSteady_rowReader`, `isSteady_oneOfReader`, `IsSteady.mergeDelimited`: messages.

So a message is read just when its bytes are whole records that lead from one value to the other
(`Merges`, `merge_eq_ok_iff`, `mergeDelimited_eq_ok_iff`), and of two byte strings in a row, the
second is merged into what the first gave (`merge_append_of_isSteady`).
-/

namespace RadioFrame.Wire

/-! ### Steady readers -/

section Steady

variable {α β : Type} {read : Bytes → Except Fault (α × Bytes)}

/-- Bytes that a reader takes to be a value, whatever follows them. -/
def Spells (read : Bytes → Except Fault (α × Bytes)) (w : Bytes) (a : α) : Prop :=
  ∀ rest, read (w ++ rest) = .ok (a, rest)

/-- What a reader reads, it reads from the bytes that it takes and from no others. -/
def Steady (read : Bytes → Except Fault (α × Bytes)) : Prop :=
  ∀ ⦃bytes a rest⦄, read bytes = .ok (a, rest) → ∃ w, bytes = w ++ rest ∧ Spells read w a

lemma steady_ok (a : α) : Steady fun bytes => .ok (a, bytes) := by
  intro bytes b rest h
  cases h
  exact ⟨[], rfl, fun _ => rfl⟩

lemma steady_error (e : Fault) : Steady fun _ => (.error e : Except Fault (α × Bytes)) := by
  intro bytes a rest h
  cases h

/-- A steady reader leaves no more bytes than there were. -/
lemma Steady.length_le (hread : Steady read) {bytes rest : Bytes} {a : α}
    (h : read bytes = .ok (a, rest)) : rest.length ≤ bytes.length := by
  obtain ⟨w, rfl, _⟩ := hread h
  rw [List.length_append]
  omega

/-- A steady reader after a steady reader. -/
lemma Steady.bind {next : α × Bytes → Except Fault (β × Bytes)} (hread : Steady read)
    (hnext : ∀ a, Steady fun bytes => next (a, bytes)) :
    Steady fun bytes => read bytes >>= next := by
  intro bytes b rest h
  obtain ⟨⟨a, middle⟩, ha, hb⟩ := bind_eq_ok.mp h
  obtain ⟨w, rfl, hw⟩ := hread ha
  obtain ⟨v, rfl, hv⟩ := hnext a hb
  refine ⟨w ++ v, (List.append_assoc _ _ _).symm, fun more => ?_⟩
  dsimp only
  rw [List.append_assoc, hw, ok_bind]
  exact hv more

/-- A steady reader whose faults are told in other words. -/
lemma Steady.mapError (hread : Steady read) (f : Fault → Fault) :
    Steady fun bytes => (read bytes).mapError f := by
  intro bytes a rest h
  obtain ⟨w, hbytes, hw⟩ := hread (mapError_eq_ok.mp h)
  exact ⟨w, hbytes, fun more => mapError_eq_ok.mpr (hw more)⟩

/-- A steady reader behind a test that does not look at the bytes. -/
lemma Steady.after (hread : Steady read) (test : Except Fault Unit) :
    Steady fun bytes => test >>= fun _ => read bytes := by
  cases test with
  | error e => exact steady_error e
  | ok _ => exact hread

/-- A reader that is told by a grammar is steady: it reads the bytes that the grammar allows, and
leaves what follows them. -/
lemma steady_of_iff {P : Bytes → α → Prop}
    (h : ∀ {bytes a rest}, read bytes = .ok (a, rest) ↔ ∃ w, bytes = w ++ rest ∧ P w a) :
    Steady read := by
  intro bytes a rest hread
  obtain ⟨w, hbytes, hw⟩ := h.mp hread
  exact ⟨w, hbytes, fun more => h.mpr ⟨w, rfl, hw⟩⟩

/-! ### Pieces -/

lemma steady_readNumber : Steady readNumber := steady_of_iff readNumber_eq_ok_iff

lemma steady_readKey : Steady readKey := steady_of_iff readKey_eq_ok_iff

lemma steady_readRun (n : Nat) : Steady (readRun n) := by
  intro bytes run rest h
  obtain ⟨rfl, hlen⟩ := readRun_eq_ok_iff.mp h
  exact ⟨run, rfl, fun more => readRun_eq_ok_iff.mpr ⟨rfl, hlen⟩⟩

lemma steady_readSized : Steady readSized :=
  steady_readNumber.bind fun n => steady_readRun n

lemma Scalar.steady_readValue (s : Scalar) : Steady s.readValue := by
  cases s with
  | bytes => exact steady_readSized
  | uint32 | uint64 | int32 | bool => exact steady_readNumber.bind fun n => steady_ok _

lemma Scalar.steady_read (s : Scalar) (found : WireType) : Steady (s.read found) :=
  s.steady_readValue.after _

/-- Passing over an unknown field leaves the value as it is. -/
lemma steady_skip (budget : Nat) (key : Key) (a : α) :
    Steady fun bytes => skip budget key bytes >>= fun rest => .ok (a, rest) := by
  intro bytes b rest h
  obtain ⟨r, hr, hok⟩ := bind_eq_ok.mp h
  cases hok
  obtain ⟨depth, w, hbytes, hw, hle⟩ := skip_eq_ok_iff.mp hr
  exact ⟨w, hbytes, fun more => bind_eq_ok.mpr ⟨more, hw.skip more hle, rfl⟩⟩

/-- Reading a simple value takes at least one byte. -/
lemma Scalar.length_lt_of_readValue (s : Scalar) {bytes rest : Bytes} {v : s.Value}
    (h : s.readValue bytes = .ok (v, rest)) : rest.length < bytes.length := by
  cases s with
  | bytes =>
      obtain ⟨⟨n, content⟩, hn, hrun⟩ := bind_eq_ok.mp h
      have hlt := length_lt_of_readNumber hn
      have hle := (steady_readRun n).length_le hrun
      omega
  | uint32 | uint64 | int32 | bool =>
      obtain ⟨⟨n, content⟩, hn, hok⟩ := bind_eq_ok.mp h
      cases hok
      exact length_lt_of_readNumber hn

end Steady

/-! ### Loops -/

section Loops

variable {σ : Type} {step : σ → Bytes → Except Fault (σ × Bytes)} {s t : σ}

/-- A steady step that takes at least one byte. -/
structure SteadyStep (step : σ → Bytes → Except Fault (σ × Bytes)) : Prop where
  /-- It looks at no byte that it does not take. -/
  steady : ∀ s, Steady (step s)
  /-- It takes at least one byte. -/
  length_lt : ∀ ⦃s bytes t rest⦄, step s bytes = .ok (t, rest) → rest.length < bytes.length

/-- A steady step consumes the bytes that it takes. -/
lemma SteadyStep.consumes (hstep : SteadyStep step) {bytes rest : Bytes}
    (h : step s bytes = .ok (t, rest)) : ∃ w, bytes = w ++ rest ∧ Consumes step s w t := by
  have hlt := hstep.length_lt h
  obtain ⟨w, rfl, hw⟩ := hstep.steady s h
  refine ⟨w, rfl, ?_, hw⟩
  rintro rfl
  exact Nat.lt_irrefl _ hlt

/-- The bytes that a loop takes are those of its steps. -/
lemma leads_of_readUntil (hstep : SteadyStep step) {limit : Nat} :
    ∀ {fuel : Nat} {s : σ} {bytes rest : Bytes},
      readUntil limit step fuel s bytes = .ok (t, rest) →
      ∃ ws, bytes = ws.flatten ++ rest ∧ Leads (Consumes step) s ws t
  | 0, _, _, _, h => by
      cases h
      exact ⟨[], rfl, .nil _⟩
  | fuel + 1, s, bytes, rest, h => by
      rw [readUntil] at h
      split at h
      · cases h
        exact ⟨[], rfl, .nil _⟩
      · obtain ⟨⟨u, r⟩, hu, hrest⟩ := bind_eq_ok.mp h
        obtain ⟨w, rfl, hw⟩ := hstep.consumes hu
        obtain ⟨ws, rfl, hws⟩ := leads_of_readUntil hstep hrest
        exact ⟨w :: ws, by rw [List.flatten_cons, List.append_assoc], .cons hw hws⟩

/-- A loop with fuel enough ends at its limit or behind it. -/
lemma length_le_of_readUntil (hstep : SteadyStep step) {limit : Nat} :
    ∀ {fuel : Nat} {s : σ} {bytes rest : Bytes}, bytes.length ≤ fuel →
      readUntil limit step fuel s bytes = .ok (t, rest) → rest.length ≤ limit
  | 0, s, bytes, rest, hfuel, h => by
      cases h
      omega
  | fuel + 1, s, bytes, rest, hfuel, h => by
      rw [readUntil] at h
      split at h
      · next hshort =>
          cases h
          exact hshort
      · obtain ⟨⟨u, r⟩, hu, hrest⟩ := bind_eq_ok.mp h
        have hlt := hstep.length_lt hu
        exact length_le_of_readUntil hstep (by omega) hrest

/-- More fuel than there are bytes changes nothing. -/
lemma readUntil_fuel (hstep : SteadyStep step) (limit : Nat) :
    ∀ {fuel fuel' : Nat} {s : σ} {bytes : Bytes}, bytes.length ≤ fuel → bytes.length ≤ fuel' →
      readUntil limit step fuel s bytes = readUntil limit step fuel' s bytes
  | 0, 0, _, _, _, _ => rfl
  | 0, fuel' + 1, s, bytes, h, _ => by
      rw [readUntil, readUntil, if_pos (by omega)]
  | fuel + 1, 0, s, bytes, _, h => by
      rw [readUntil, readUntil, if_pos (by omega)]
  | fuel + 1, fuel' + 1, s, bytes, h, h' => by
      rw [readUntil, readUntil]
      split
      · rfl
      · cases hu : step s bytes with
        | error e => rfl
        | ok p =>
            have hlt := hstep.length_lt hu
            exact readUntil_fuel hstep limit (by omega) (by omega)

/-- Behind a length stand the bytes of steps, which use up just as many as the length says. -/
lemma readDelimited_eq_ok_iff (hstep : SteadyStep step) {bytes rest : Bytes} :
    readDelimited step s bytes = .ok (t, rest) ↔
      ∃ w ws, bytes = w ++ (ws.flatten ++ rest) ∧ IsNumber w ws.flatten.length ∧
        Leads (Consumes step) s ws t := by
  constructor
  · intro h
    obtain ⟨⟨n, content⟩, hn, hbody⟩ := bind_eq_ok.mp h
    obtain ⟨w, rfl, hw⟩ := readNumber_eq_ok_iff.mp hn
    dsimp only at hbody
    split at hbody
    · cases hbody
    · next hfits =>
        obtain ⟨⟨u, r⟩, hloop, hend⟩ := bind_eq_ok.mp hbody
        dsimp only at hend
        split at hend
        · next hlimit =>
            cases hend
            obtain ⟨ws, rfl, hws⟩ := leads_of_readUntil hstep hloop
            have hlength : ws.flatten.length = n := by
              rw [List.length_append] at hfits hlimit
              omega
            exact ⟨w, ws, rfl, by rw [hlength]; exact hw, hws⟩
        · cases hend
  · rintro ⟨w, ws, rfl, hw, hws⟩
    exact readDelimited_of_spelled hw.read hws rest

/-- What stands behind a length is read on account of its own bytes. -/
lemma steady_readDelimited (hstep : SteadyStep step) (s : σ) : Steady (readDelimited step s) := by
  intro bytes t rest h
  obtain ⟨w, ws, rfl, hw, hws⟩ := (readDelimited_eq_ok_iff hstep).mp h
  refine ⟨w ++ ws.flatten, (List.append_assoc _ _ _).symm, fun more => ?_⟩
  exact (readDelimited_eq_ok_iff hstep).mpr ⟨w, ws, List.append_assoc _ _ _, hw, hws⟩

end Loops

/-! ### Fields -/

section Fields

variable {σ : Type}

/-- A field whose values are read steadily. -/
def FieldReader.IsSteady (field : FieldReader σ) : Prop :=
  ∀ found budget s, Steady (field.read found budget s)

/-- Fields all of which are read steadily. -/
def IsSteady (fields : FieldReaders σ) : Prop :=
  ∀ ⦃tag field⦄, fields tag = some field → field.IsSteady

variable {fields : FieldReaders σ}

/-- What follows the key of a record is read steadily. -/
lemma IsSteady.value (hfields : IsSteady fields) (name : String) (budget : Nat) (s : σ)
    (key : Key) :
    Steady fun bytes =>
      match fields key.tag with
      | some field => (field.read key.wireType budget s bytes).mapError (.within name field.label)
      | none => skip budget key bytes >>= fun rest => .ok (s, rest) := by
  cases hfield : fields key.tag with
  | none => exact steady_skip budget key s
  | some field => exact (hfields hfield key.wireType budget s).mapError _

/-- One record of a message is read steadily, and has a key. -/
lemma IsSteady.mergeRecord (hfields : IsSteady fields) (name : String) (budget : Nat) :
    SteadyStep (mergeRecord name fields budget) where
  steady s := steady_readKey.bind fun key => hfields.value name budget s key
  length_lt s bytes t rest h := by
    obtain ⟨⟨key, value⟩, hkey, hbody⟩ := bind_eq_ok.mp h
    have hlt := length_lt_of_readKey hkey
    have hle := (hfields.value name budget s key).length_le hbody
    omega

/-- A message inside a message is read steadily. -/
lemma IsSteady.mergeDelimited (hfields : IsSteady fields) (name : String) (found : WireType)
    (budget : Nat) (s : σ) : Steady (mergeDelimited name fields found budget s) := by
  cases budget with
  | zero => exact (steady_error _).after _
  | succ budget => exact (steady_readDelimited (hfields.mergeRecord name budget) s).after _

/-- A byte string that is whole records, which lead from one value to another. -/
def Merges (name : String) (fields : FieldReaders σ) (budget : Nat) (s : σ) (bytes : Bytes)
    (t : σ) : Prop :=
  ∃ ws, bytes = ws.flatten ∧ Leads (Consumes (Wire.mergeRecord name fields budget)) s ws t

lemma Merges.nil (name : String) (fields : FieldReaders σ) (budget : Nat) (s : σ) :
    Merges name fields budget s [] s := ⟨[], rfl, .nil s⟩

lemma Merges.eq_of_nil {name : String} {budget : Nat} {s t : σ}
    (h : Merges name fields budget s [] t) : t = s := by
  obtain ⟨ws, hws, hleads⟩ := h
  cases hleads with
  | nil => rfl
  | cons hw _ => exact absurd (List.append_eq_nil_iff.mp hws.symm).1 hw.1

/-- One more record in front. -/
lemma Merges.cons {name : String} {budget : Nat} {s u t : σ} {r bytes : Bytes}
    (hr : Consumes (Wire.mergeRecord name fields budget) s r u)
    (h : Merges name fields budget u bytes t) :
    Merges name fields budget s (r ++ bytes) t := by
  obtain ⟨ws, rfl, hws⟩ := h
  exact ⟨r :: ws, List.flatten_cons.symm, .cons hr hws⟩

/-- All records of a byte string are read just when it is whole records. -/
lemma merge_eq_ok_iff (hfields : IsSteady fields) {name : String} {s t : σ} {bytes : Bytes} :
    merge name fields s bytes = .ok t ↔ Merges name fields maxDepth s bytes t := by
  have hstep := hfields.mergeRecord name maxDepth
  constructor
  · intro h
    obtain ⟨⟨u, rest⟩, hloop, hok⟩ := bind_eq_ok.mp h
    cases hok
    have hend := length_le_of_readUntil hstep (Nat.le_refl _) hloop
    obtain rfl : rest = [] := List.length_eq_zero_iff.mp (Nat.le_zero.mp hend)
    obtain ⟨ws, hbytes, hws⟩ := leads_of_readUntil hstep hloop
    exact ⟨ws, by rw [hbytes, List.append_nil], hws⟩
  · rintro ⟨ws, rfl, hws⟩
    have hloop := readUntil_of_leads hws [] _ (Nat.le_refl _)
    rw [List.append_nil] at hloop
    exact bind_eq_ok.mpr ⟨_, hloop, rfl⟩

/-- A message inside a message is a length and as many bytes of whole records, read with one less of
the budget. -/
lemma mergeDelimited_eq_ok_iff (hfields : IsSteady fields) {name : String} {found : WireType}
    {budget : Nat} {s t : σ} {bytes rest : Bytes} :
    Wire.mergeDelimited name fields found budget s bytes = .ok (t, rest) ↔
      found = .lengthDelimited ∧ ∃ left w content, budget = left + 1 ∧
        bytes = w ++ (content ++ rest) ∧ IsNumber w content.length ∧
        Merges name fields left s content t := by
  constructor
  · intro h
    obtain ⟨_, hexpect, hbody⟩ := bind_eq_ok.mp h
    have hfound := expect_eq_ok_iff.mp hexpect
    cases budget with
    | zero => cases hbody
    | succ left =>
        obtain ⟨w, ws, rfl, hw, hws⟩ :=
          (readDelimited_eq_ok_iff (hfields.mergeRecord name left)).mp hbody
        exact ⟨hfound, left, w, ws.flatten, rfl, rfl, hw, ws, rfl, hws⟩
  · rintro ⟨rfl, left, w, _, rfl, rfl, hw, ws, rfl, hws⟩
    exact (readDelimited_eq_ok_iff (hfields.mergeRecord name left)).mpr ⟨w, ws, rfl, hw, hws⟩

/-- Of two byte strings in a row, the second is merged into what the first gave. -/
theorem merge_append_of_isSteady (hfields : IsSteady fields) {name : String} {s t : σ}
    {bytes : Bytes} (h : merge name fields s bytes = .ok t) (more : Bytes) :
    merge name fields s (bytes ++ more) = merge name fields t more := by
  have hstep := hfields.mergeRecord name maxDepth
  obtain ⟨ws, rfl, hws⟩ := (merge_eq_ok_iff hfields).mp h
  obtain ⟨left, hleft, hrest⟩ := readUntil_append hws (Nat.zero_le more.length) more.length _
    (Nat.le_of_eq (List.length_append).symm)
  rw [merge, merge, hrest, readUntil_fuel hstep 0 hleft (Nat.le_refl _)]

end Fields

/-! ### Several fields -/

section Several

variable {ι α β : Type} {V : ι → Type}

lemma FieldReader.IsSteady.onFirst {r : FieldReader α} (h : r.IsSteady) :
    (r.onFirst : FieldReader (α × β)).IsSteady := fun found budget s =>
  (h found budget s.1).bind fun a => steady_ok (a, s.2)

lemma FieldReader.IsSteady.onSecond {r : FieldReader β} (h : r.IsSteady) :
    (r.onSecond : FieldReader (α × β)).IsSteady := fun found budget s =>
  (h found budget s.2).bind fun b => steady_ok (s.1, b)

/-- The entries of a row are read steadily if each is. -/
lemma isSteady_rowReader {entry : ∀ i, FieldReaders (V i)} :
    ∀ {is : List ι}, (∀ i ∈ is, IsSteady (entry i)) → IsSteady (rowReader entry is)
  | [], _, _, _, h => by
      cases h
  | i :: is, hentry, tag, field, h => by
      have hrest := isSteady_rowReader fun j hj => hentry j (List.mem_cons_of_mem _ hj)
      cases hi : entry i tag with
      | some r =>
          rw [rowReader, hi] at h
          cases h
          exact (hentry i List.mem_cons_self hi).onFirst
      | none =>
          rw [rowReader, hi] at h
          obtain ⟨r, hr, rfl⟩ := Option.map_eq_some_iff.mp h
          exact (hrest hr).onSecond

/-- Exclusive fields are read steadily if each is, whatever it is merged into. -/
lemma isSteady_oneOfReader [DecidableEq ι] {label : String} {ofTag? : Nat → Option ι}
    {blank : ∀ i, V i} {read : ∀ i, WireType → Nat → V i → Bytes → Except Fault (V i × Bytes)}
    (hread : ∀ i found budget v, Steady (read i found budget v)) :
    IsSteady (oneOfReader label ofTag? blank read) := by
  intro tag field h found budget current
  obtain ⟨i, _, rfl⟩ := Option.map_eq_some_iff.mp h
  exact (hread i found budget _).bind fun v => steady_ok _

end Several

end RadioFrame.Wire
