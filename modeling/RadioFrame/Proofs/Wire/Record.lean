import RadioFrame.Proofs.Wire.Scalar
import RadioFrame.Wire.Message

/-!
Records in sequence: what a message reader does on bytes that are whole records.

* `Leads`: a list of inputs that takes a state, input by input, to another state.
* `Consumes`: a step that takes exactly the given bytes, whatever follows them. From a list of such
  bytes come the results of the loops: `readUntil_of_leads`, `readDelimited_of_leads`,
  `merge_of_leads`.
* `Takes`: a record that the fields of a message take. `Takes.consumes` makes a step of it, so
  `mergeDelimited_of_leads` reads a message inside a message from its records.
* `leads_rowReader`: the records of a row may be interleaved in any way. The first entry sees its
  own records only, the others see the rest.
-/

namespace RadioFrame.Wire

/-! ### Inputs in sequence -/

/-- A list of inputs leads from one state to another, one step of `R` for each input. -/
inductive Leads {σ β : Type} (R : σ → β → σ → Prop) : σ → List β → σ → Prop
  /-- No input changes nothing. -/
  | nil (s : σ) : Leads R s [] s
  /-- The first input leads on to where the others begin. -/
  | cons {s t u : σ} {b : β} {bs : List β} : R s b t → Leads R t bs u → Leads R s (b :: bs) u

namespace Leads

variable {σ τ β γ : Type} {R : σ → β → σ → Prop} {s t : σ}

lemma single {b : β} (h : R s b t) : Leads R s [b] t := .cons h (.nil t)

/-- Steps of one relation that are steps of another, on states and inputs made from the first
ones. -/
lemma map {Q : τ → γ → τ → Prop} {bs : List β} (g : σ → τ) (f : β → γ)
    (hRQ : ∀ {s b t}, R s b t → Q (g s) (f b) (g t)) (h : Leads R s bs t) :
    Leads Q (g s) (bs.map f) (g t) := by
  induction h with
  | nil s => exact .nil (g s)
  | cons hb _ ih => exact .cons (hRQ hb) ih

/-- The last input comes after the others. -/
lemma of_concat {b : β} : ∀ {bs : List β} {s : σ}, Leads R s (bs ++ [b]) t →
    ∃ u, Leads R s bs u ∧ R u b t
  | [], _, h => by
      cases h with
      | cons hb hnil =>
          cases hnil
          exact ⟨_, .nil _, hb⟩
  | _ :: _, _, h => by
      cases h with
      | cons hc hrest =>
          obtain ⟨u, hu, hb⟩ := of_concat hrest
          exact ⟨u, .cons hc hu, hb⟩

/-- Inputs each of which stands for a value, and changes the state by it. -/
lemma exists_foldl {ε : Type} (val : β → Except ε γ) (f : σ → γ → σ)
    (hR : ∀ {s b t}, R s b t → ∃ c, val b = .ok c ∧ t = f s c) :
    ∀ {bs : List β} {s : σ}, Leads R s bs t → ∃ cs, tryEach val bs = .ok cs ∧ t = cs.foldl f s
  | [], _, h => by
      cases h
      exact ⟨[], rfl, rfl⟩
  | b :: bs, s, h => by
      cases h with
      | cons hb hrest =>
          obtain ⟨c, hc, rfl⟩ := hR hb
          obtain ⟨cs, hcs, rfl⟩ := exists_foldl val f hR hrest
          refine ⟨c :: cs, ?_, rfl⟩
          rw [tryEach, hc, hcs]
          rfl

end Leads

/-! ### Bytes that a step consumes -/

section Steps

variable {σ : Type} {step : σ → Bytes → Except Fault (σ × Bytes)} {s t : σ}

/-- A step consumes exactly the bytes `w`, at least one, whatever follows them. -/
def Consumes (step : σ → Bytes → Except Fault (σ × Bytes)) (s : σ) (w : Bytes) (t : σ) : Prop :=
  w ≠ [] ∧ ∀ rest, step s (w ++ rest) = .ok (t, rest)

/-- The loop goes on behind the bytes of consuming steps as if it began there. -/
lemma readUntil_append {ws : List Bytes} (h : Leads (Consumes step) s ws t) {limit : Nat}
    {rest : Bytes} (hlimit : limit ≤ rest.length) (room fuel : Nat)
    (hfuel : ws.flatten.length + room ≤ fuel) :
    ∃ left, room ≤ left ∧
      readUntil limit step fuel s (ws.flatten ++ rest) = readUntil limit step left t rest := by
  induction h generalizing fuel with
  | nil s =>
      rw [List.flatten_nil, List.length_nil, Nat.zero_add] at hfuel
      exact ⟨fuel, hfuel, rfl⟩
  | @cons s t u w ws hw _ ih =>
      obtain ⟨hne, hstep⟩ := hw
      have hpos : 0 < w.length := List.length_pos_iff.mpr hne
      rw [List.flatten_cons, List.length_append] at hfuel
      cases fuel with
      | zero => omega
      | succ fuel =>
          have hlong : ¬(w ++ ws.flatten ++ rest).length ≤ limit := by
            simp only [List.length_append]
            omega
          obtain ⟨left, hleft, hrest⟩ := ih fuel (by omega)
          refine ⟨left, hleft, ?_⟩
          rw [List.flatten_cons, readUntil, if_neg hlong, List.append_assoc, hstep, ok_bind]
          exact hrest

/-- The loop reads all bytes of consuming steps and stops before what follows them. -/
lemma readUntil_of_leads {ws : List Bytes} (h : Leads (Consumes step) s ws t) (rest : Bytes)
    (fuel : Nat) (hfuel : ws.flatten.length ≤ fuel) :
    readUntil rest.length step fuel s (ws.flatten ++ rest) = .ok (t, rest) := by
  obtain ⟨left, _, hrest⟩ := readUntil_append h (Nat.le_refl rest.length) 0 fuel hfuel
  rw [hrest]
  cases left with
  | zero => rfl
  | succ left => rw [readUntil, if_pos (Nat.le_refl _)]

/-- A length in front of the bytes of consuming steps is read together with them, however the length
is spelled. -/
lemma readDelimited_of_spelled {spelling : Bytes} {ws : List Bytes}
    (hnum : ∀ rest, readNumber (spelling ++ rest) = .ok (ws.flatten.length, rest))
    (h : Leads (Consumes step) s ws t) (rest : Bytes) :
    readDelimited step s (spelling ++ (ws.flatten ++ rest)) = .ok (t, rest) := by
  have hloop := readUntil_of_leads h rest (ws.flatten ++ rest).length
    (by rw [List.length_append]; omega)
  have hlimit : (ws.flatten ++ rest).length - ws.flatten.length = rest.length := by
    rw [List.length_append]
    omega
  have hfits : ¬(ws.flatten ++ rest).length < ws.flatten.length := by
    rw [List.length_append]
    omega
  rw [readDelimited, hnum, ok_bind]
  dsimp only
  rw [if_neg hfits, hlimit, hloop, ok_bind, if_pos rfl]

/-- A length in front of the bytes of consuming steps is read together with them. -/
lemma readDelimited_of_leads {ws : List Bytes} (h : Leads (Consumes step) s ws t)
    (hlen : ws.flatten.length < 2 ^ 64) (rest : Bytes) :
    readDelimited step s (writeSized ws.flatten ++ rest) = .ok (t, rest) := by
  rw [writeSized, List.append_assoc]
  exact readDelimited_of_spelled (fun rest => readNumber_write hlen rest) h rest

end Steps

/-! ### Records -/

/-- One record: the tag and the layout in its key, and the bytes after the key. -/
structure Record where
  /-- Which field. -/
  tag : Nat
  /-- How its value is laid out. -/
  wireType : WireType
  /-- The bytes of its value. -/
  value : Bytes
  deriving DecidableEq

namespace Record

/-- The bytes of a record. -/
def bytes (r : Record) : Bytes := writeKey r.tag r.wireType ++ r.value

/-- The record whose value is a message or byte string. -/
def delimited (tag : Nat) (content : Bytes) : Record := ⟨tag, .lengthDelimited, writeSized content⟩

lemma bytes_delimited (tag : Nat) (content : Bytes) :
    (delimited tag content).bytes = writeDelimited tag content := rfl

lemma length_value_le (r : Record) : r.value.length ≤ r.bytes.length := by
  rw [bytes, List.length_append]
  omega

end Record

/-- The value of a record is no longer than all records together. -/
lemma length_value_le_of_mem {r : Record} {rs : List Record} (h : r ∈ rs) :
    r.value.length ≤ (rs.flatMap Record.bytes).length := by
  obtain ⟨before, after, rfl⟩ := List.append_of_mem h
  have hr := r.length_value_le
  simp only [List.flatMap_append, List.flatMap_cons, List.length_append]
  omega

/-- The content of a delimited record is no longer than all records together. -/
lemma length_content_le_of_mem {tag : Nat} {content : Bytes} {rs : List Record}
    (h : .delimited tag content ∈ rs) : content.length ≤ (rs.flatMap Record.bytes).length :=
  Nat.le_trans (length_le_writeSized content) (length_value_le_of_mem h)

section Fields

variable {σ : Type} {fields : FieldReaders σ} {budget : Nat} {s t : σ}

/-- The fields of a message take a record: one of them knows its tag, and reads its value from one
state to another, whatever follows. -/
def Takes (fields : FieldReaders σ) (budget : Nat) (s : σ) (r : Record) (t : σ) : Prop :=
  ValidTag r.tag ∧ ∃ field, fields r.tag = some field ∧
    ∀ rest, field.read r.wireType budget s (r.value ++ rest) = .ok (t, rest)

/-- A record that the fields take is one step of the message. -/
lemma Takes.consumes {r : Record} (name : String) (h : Takes fields budget s r t) :
    Consumes (mergeRecord name fields budget) s r.bytes t := by
  obtain ⟨htag, field, hfield, hread⟩ := h
  refine ⟨?_, fun rest => ?_⟩
  · rw [Record.bytes, writeKey]
    simp [write_ne_nil]
  · rw [mergeRecord, Record.bytes, List.append_assoc, readKey_writeKey htag, ok_bind]
    dsimp only
    rw [hfield]
    dsimp only
    rw [hread, mapError_ok]

/-- The records that the fields take are steps of the message. -/
lemma consumes_of_takes {rs : List Record} (name : String)
    (h : Leads (Takes fields budget) s rs t) :
    Leads (Consumes (mergeRecord name fields budget)) s (rs.map Record.bytes) t :=
  h.map id Record.bytes fun hr => hr.consumes name

/-- A byte string of records is read into a value. -/
lemma merge_of_leads {rs : List Record} (name : String)
    (h : Leads (Takes fields maxDepth) s rs t) :
    merge name fields s (rs.flatMap Record.bytes) = .ok t := by
  have hloop := readUntil_of_leads (consumes_of_takes name h) [] _ (Nat.le_refl _)
  rw [List.append_nil, ← List.flatMap_def, List.length_nil] at hloop
  rw [merge, hloop]
  rfl

/-- A message inside a message is read from its records. -/
lemma mergeDelimited_of_leads {rs : List Record} (name : String)
    (h : Leads (Takes fields budget) s rs t) (hlen : (rs.flatMap Record.bytes).length < 2 ^ 64)
    (rest : Bytes) :
    mergeDelimited name fields .lengthDelimited (budget + 1) s
      (writeSized (rs.flatMap Record.bytes) ++ rest) = .ok (t, rest) := by
  rw [mergeDelimited, expect, if_pos rfl, ok_bind]
  rw [List.flatMap_def] at hlen ⊢
  exact readDelimited_of_leads (consumes_of_takes name h) hlen rest

end Fields

/-! ### Rows -/

section Rows

variable {ι : Type} {V : ι → Type} {entry : ∀ i, FieldReaders (V i)} {budget : Nat}
  {i : ι} {is : List ι} {a a' : V i} {b b' : Row V is}

/-- The first entry of a row takes its own records, and leaves the others as they are. -/
lemma Takes.first {r : Record} (h : Takes (entry i) budget a r a') :
    Takes (σ := Row V (i :: is)) (rowReader entry (i :: is)) budget (a, b) r (a', b) := by
  obtain ⟨htag, field, hfield, hread⟩ := h
  refine ⟨htag, field.onFirst, ?_, fun rest => ?_⟩
  · rw [rowReader, hfield]
  · change (field.read r.wireType budget a (r.value ++ rest) >>= _) = _
    rw [hread]
    rfl

/-- The other entries of a row take the records that the first does not know. -/
lemma Takes.others {r : Record} (hnone : entry i r.tag = none)
    (h : Takes (rowReader entry is) budget b r b') :
    Takes (σ := Row V (i :: is)) (rowReader entry (i :: is)) budget (a, b) r (a, b') := by
  obtain ⟨htag, field, hfield, hread⟩ := h
  refine ⟨htag, field.onSecond, ?_, fun rest => ?_⟩
  · have hrow : rowReader entry (i :: is) r.tag
        = (rowReader entry is r.tag).map FieldReader.onSecond := by
      rw [rowReader, hnone]
      rfl
    rw [hrow, hfield]
    rfl
  · change (field.read r.wireType budget b (r.value ++ rest) >>= _) = _
    rw [hread]
    rfl

/-- The records of a row may be interleaved in any way: the first entry takes those whose tags it
knows, the other entries take the rest, and neither sees what the others take. -/
theorem leads_rowReader {rs : List Record}
    (hfirst : Leads (Takes (entry i) budget) a (rs.filter fun r => (entry i r.tag).isSome) a')
    (hothers : Leads (Takes (rowReader entry is) budget) b
      (rs.filter fun r => !(entry i r.tag).isSome) b') :
    Leads (Takes (σ := Row V (i :: is)) (rowReader entry (i :: is)) budget) (a, b) rs (a', b') := by
  induction rs generalizing a b with
  | nil =>
      cases hfirst
      cases hothers
      exact .nil _
  | cons r rs ih =>
      cases hknown : (entry i r.tag).isSome with
      | true =>
          rw [List.filter_cons_of_pos (by simp [hknown])] at hfirst
          rw [List.filter_cons_of_neg (by simp [hknown])] at hothers
          cases hfirst with
          | cons hr hrs => exact .cons hr.first (ih hrs hothers)
      | false =>
          rw [List.filter_cons_of_neg (by simp [hknown])] at hfirst
          rw [List.filter_cons_of_pos (by simp [hknown])] at hothers
          have hnone : entry i r.tag = none := by simpa using hknown
          cases hothers with
          | cons hr hrs => exact .cons (hr.others hnone) (ih hfirst hrs)

end Rows

end RadioFrame.Wire
