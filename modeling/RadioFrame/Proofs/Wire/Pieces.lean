import Mathlib.Data.List.Basic
import RadioFrame.Proofs.Row
import RadioFrame.Proofs.Wire.Nesting
import RadioFrame.Proofs.Wire.Uniform

/-!
Records one by one, and whose they are.

A `Piece` is a complete record with its key in any spelling. What the pieces of a message lead to is
what its fields make of the records among them that they know (`leads_takes`), and each entry of a
row sees its own records and no others: `leads_of_rowReader` tells the first entry from the rest,
the other way round than `leads_rowReader`, and `leads_get` tells what stands at any place, if no
two entries know the same tag. A record that the entry at a place takes is one that the row takes
(`takes_set`).
-/

namespace RadioFrame.Wire

/-! ### Pieces -/

/-- A complete record: a key, spelled in any way, and a value that the key announces. -/
structure Piece where
  /-- What it says. -/
  record : Record
  /-- The spelling of its key. -/
  head : Bytes
  /-- The spelling is one of the key. -/
  isKey : IsKey head ⟨record.tag, record.wireType⟩
  /-- The value is complete. -/
  isValue : ∃ depth, IsValue ⟨record.tag, record.wireType⟩ depth record.value

namespace Piece

/-- The bytes of a piece. -/
def bytes (p : Piece) : Bytes := p.head ++ p.record.value

lemma exists_isRecord (p : Piece) : ∃ key depth, IsRecord p.bytes key depth := by
  obtain ⟨depth, hvalue⟩ := p.isValue
  exact ⟨_, depth, p.head, p.record.value, rfl, p.isKey, hvalue⟩

end Piece

section Fields

variable {σ : Type} {name : String} {fields : FieldReaders σ} {budget : Nat} {s t : σ} {p : Piece}

/-- A piece that is merged by itself is one step of the message. -/
lemma consumes_of_merges (hfields : TakesValues fields)
    (h : Merges name fields budget s p.bytes t) :
    Consumes (mergeRecord name fields budget) s p.bytes t := by
  obtain ⟨key, depth, hrecord⟩ := p.exists_isRecord
  rw [← List.append_nil p.bytes] at h
  obtain ⟨u, hu, hrest⟩ := h.of_append hfields hrecord
  rw [hrest.eq_of_nil]
  exact hu

/-- Pieces that are merged together are steps of the message, one after the other. -/
lemma leads_of_merges (hfields : TakesValues fields) {ps : List Piece}
    (h : Merges name fields budget s (ps.flatMap Piece.bytes) t) :
    Leads (Consumes (mergeRecord name fields budget)) s (ps.map Piece.bytes) t := by
  induction ps generalizing s with
  | nil =>
      obtain rfl := h.eq_of_nil
      exact .nil _
  | cons p ps ih =>
      obtain ⟨key, depth, hrecord⟩ := p.exists_isRecord
      obtain ⟨u, hu, hrest⟩ := h.of_append hfields hrecord
      exact .cons hu (ih hrest)

/-- A piece of a known tag is taken by the field of that tag. -/
lemma takes_of_consumes (hknown : (fields p.record.tag).isSome)
    (h : Consumes (mergeRecord name fields budget) s p.bytes t) :
    Takes fields budget s p.record t := by
  obtain ⟨field, hfield⟩ := Option.isSome_iff_exists.mp hknown
  refine ⟨p.isKey.tag_valid, field, hfield, fun rest => ?_⟩
  have hstep := h.2 rest
  rw [Piece.bytes, List.append_assoc, p.isKey.mergeRecord] at hstep
  dsimp only at hstep
  rw [hfield] at hstep
  exact mapError_eq_ok.mp hstep

/-- A piece that the fields take is one step of the message, however its key is spelled. -/
lemma Takes.consumes_piece (name : String) (h : Takes fields budget s p.record t) :
    Consumes (mergeRecord name fields budget) s p.bytes t := by
  obtain ⟨_, field, hfield, hread⟩ := h
  refine ⟨?_, fun rest => ?_⟩
  · exact List.append_ne_nil_of_left_ne_nil (List.length_pos_iff.mp p.isKey.length_pos) _
  · rw [Piece.bytes, List.append_assoc, p.isKey.mergeRecord]
    dsimp only
    rw [hfield]
    exact mapError_eq_ok.mpr (hread rest)

/-- A piece of an unknown tag changes nothing. -/
lemma eq_of_consumes (hunknown : fields p.record.tag = none)
    (h : Consumes (mergeRecord name fields budget) s p.bytes t) : t = s := by
  have hstep := h.2 []
  rw [Piece.bytes, List.append_assoc, p.isKey.mergeRecord] at hstep
  dsimp only at hstep
  rw [hunknown] at hstep
  obtain ⟨_, _, hok⟩ := bind_eq_ok.mp hstep
  cases hok
  rfl

/-- What pieces lead to is what the known records among them lead to. -/
lemma leads_takes {ps : List Piece}
    (h : Leads (Consumes (mergeRecord name fields budget)) s (ps.map Piece.bytes) t) :
    Leads (Takes fields budget) s ((ps.map Piece.record).filter fun r => (fields r.tag).isSome)
      t := by
  induction ps generalizing s with
  | nil =>
      cases h
      exact .nil _
  | cons p ps ih =>
      rw [List.map_cons] at h ⊢
      cases h with
      | cons hp hrest =>
          by_cases hknown : (fields p.record.tag).isSome
          · rw [List.filter_cons_of_pos (by exact hknown)]
            exact .cons (takes_of_consumes hknown hp) (ih hrest)
          · obtain rfl := eq_of_consumes (Option.not_isSome_iff_eq_none.mp hknown) hp
            rw [List.filter_cons_of_neg (by exact hknown)]
            exact ih hrest

end Fields

/-! ### Rows -/

section Rows

variable {ι : Type} {V : ι → Type} {entry : ∀ i, FieldReaders (V i)} {budget : Nat}
  {i : ι} {is : List ι} {a a' : V i} {b b' : Row V is} {r : Record}

/-- A record of the first entry of a row is taken by it, and the others stay as they are. -/
lemma Takes.of_first (hknown : (entry i r.tag).isSome)
    (h : Takes (σ := Row V (i :: is)) (rowReader entry (i :: is)) budget (a, b) r (a', b')) :
    Takes (entry i) budget a r a' ∧ b' = b := by
  obtain ⟨htag, field, hfield, hread⟩ := h
  obtain ⟨own, hown⟩ := Option.isSome_iff_exists.mp hknown
  rw [rowReader, hown] at hfield
  cases hfield
  have hvalue : ∀ rest,
      own.read r.wireType budget a (r.value ++ rest) = .ok (a', rest) ∧ b' = b := by
    intro rest
    obtain ⟨⟨v, left⟩, hv, hok⟩ := bind_eq_ok.mp (hread rest)
    cases hok
    exact ⟨hv, rfl⟩
  exact ⟨⟨htag, own, hown, fun rest => (hvalue rest).1⟩, (hvalue []).2⟩

/-- A record that the first entry of a row does not know is taken by the others. -/
lemma Takes.of_others (hunknown : entry i r.tag = none)
    (h : Takes (σ := Row V (i :: is)) (rowReader entry (i :: is)) budget (a, b) r (a', b')) :
    a' = a ∧ Takes (rowReader entry is) budget b r b' := by
  obtain ⟨htag, field, hfield, hread⟩ := h
  rw [rowReader, hunknown] at hfield
  obtain ⟨own, hown, rfl⟩ := Option.map_eq_some_iff.mp hfield
  have hvalue : ∀ rest,
      a' = a ∧ own.read r.wireType budget b (r.value ++ rest) = .ok (b', rest) := by
    intro rest
    obtain ⟨⟨v, left⟩, hv, hok⟩ := bind_eq_ok.mp (hread rest)
    cases hok
    exact ⟨rfl, hv⟩
  exact ⟨(hvalue []).1, htag, own, hown, fun rest => (hvalue rest).2⟩

/-- The first entry of a row sees those records whose tags it knows, the others see the rest. -/
theorem leads_of_rowReader {rs : List Record}
    (h : Leads (Takes (σ := Row V (i :: is)) (rowReader entry (i :: is)) budget)
      (a, b) rs (a', b')) :
    Leads (Takes (entry i) budget) a (rs.filter fun r => (entry i r.tag).isSome) a' ∧
      Leads (Takes (rowReader entry is) budget) b
        (rs.filter fun r => !(entry i r.tag).isSome) b' := by
  induction rs generalizing a b with
  | nil =>
      cases h
      exact ⟨.nil _, .nil _⟩
  | cons r rs ih =>
      cases h with
      | @cons _ u _ _ _ hr hrs =>
          obtain ⟨c, d⟩ := u
          obtain ⟨hfirst, hothers⟩ := ih hrs
          cases hknown : (entry i r.tag).isSome with
          | true =>
              obtain ⟨hown, rfl⟩ := hr.of_first hknown
              rw [List.filter_cons_of_pos (by simp [hknown]),
                List.filter_cons_of_neg (by simp [hknown])]
              exact ⟨.cons hown hfirst, hothers⟩
          | false =>
              obtain ⟨rfl, hrest⟩ := hr.of_others (by simpa using hknown)
              rw [List.filter_cons_of_neg (by simp [hknown]),
                List.filter_cons_of_pos (by simp [hknown])]
              exact ⟨hfirst, .cons hrest hothers⟩

/-- What stands at a place of a row is what its own records lead to, if no two entries know the same
tag. -/
theorem leads_get : ∀ {is : List ι} {s t : Row V is} {rs : List Record},
    is.Pairwise (fun i j => ∀ tag, (entry i tag).isSome → (entry j tag).isSome = false) →
    Leads (Takes (rowReader entry is) budget) s rs t → ∀ k : Fin is.length,
      Leads (Takes (entry (is.get k)) budget) (s.get k)
        (rs.filter fun r => (entry (is.get k) r.tag).isSome) (t.get k)
  | i :: is, (a, b), (a', b'), rs, hapart, h, ⟨0, _⟩ => (leads_of_rowReader h).1
  | i :: is, (a, b), (a', b'), rs, hapart, h, ⟨k + 1, hk⟩ => by
      obtain ⟨hfirst, hrest⟩ := List.pairwise_cons.mp hapart
      have hlt : k < is.length := Nat.lt_of_succ_lt_succ hk
      have hplace := leads_get hrest (leads_of_rowReader h).2 ⟨k, hlt⟩
      rw [List.filter_filter] at hplace
      have hown : (rs.filter fun r => (entry (is.get ⟨k, hlt⟩) r.tag).isSome &&
          !(entry i r.tag).isSome) = rs.filter fun r => (entry (is.get ⟨k, hlt⟩) r.tag).isSome := by
        refine List.filter_congr fun r _ => ?_
        cases hi : (entry i r.tag).isSome with
        | false => exact Bool.and_true _
        | true =>
            rw [hfirst _ (List.get_mem is ⟨k, hlt⟩) r.tag hi]
            rfl
      exact hown ▸ hplace

/-- A row takes what the entry at a place takes, and the others stay as they are. -/
lemma takes_set : ∀ {is : List ι} {s : Row V is},
      is.Pairwise (fun i j => ∀ tag, (entry i tag).isSome → (entry j tag).isSome = false) →
      ∀ (k : Fin is.length) {v : V (is.get k)}, Takes (entry (is.get k)) budget (s.get k) r v →
        Takes (rowReader entry is) budget s r (s.set k v)
  | i :: is, (a, b), _, ⟨0, _⟩, v, h => Takes.first h
  | i :: is, (a, b), hapart, ⟨k + 1, hk⟩, v, h => by
      obtain ⟨hfirst, hrest⟩ := List.pairwise_cons.mp hapart
      have hlt : k < is.length := Nat.lt_of_succ_lt_succ hk
      have hnone : entry i r.tag = none := by
        obtain ⟨_, field, hfield, _⟩ := h
        rw [← Option.not_isSome_iff_eq_none]
        intro hknown
        have hother := hfirst _ (List.get_mem is ⟨k, hlt⟩) r.tag hknown
        rw [show (entry (is.get ⟨k, hlt⟩) r.tag) = some field from hfield] at hother
        cases hother
      exact Takes.others hnone (takes_set hrest ⟨k, hlt⟩ h)

end Rows

end RadioFrame.Wire
