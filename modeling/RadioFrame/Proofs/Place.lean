import Mathlib.Data.List.Nodup
import Mathlib.Tactic.Lemma

/-!
Places in a list, found by a key.

Words are found by their number or their spelling, variants by their name. As long as no two entries
share a key, the place that is found is the one whose entry has the key.
-/

namespace RadioFrame

lemma findFinIdx?_eq_some_iff_of_nodup {ι κ : Type} [DecidableEq κ] {key : ι → κ} {is : List ι}
    (h : (is.map key).Nodup) {b : κ} {k : Fin is.length} :
    (is.findFinIdx? fun i => key i = b) = some k ↔ key (is.get k) = b := by
  rw [List.findFinIdx?_eq_some_iff]
  constructor
  · rintro ⟨hk, -⟩
    exact of_decide_eq_true hk
  · intro hk
    refine ⟨decide_eq_true hk, fun j hj hjk => ?_⟩
    have hsame : (is.map key).get ⟨j, by simp⟩ = (is.map key).get ⟨k, by simp⟩ := by
      simp only [List.get_eq_getElem, List.getElem_map]
      exact (of_decide_eq_true hjk).trans hk.symm
    exact Nat.ne_of_lt hj (Fin.mk.inj (List.nodup_iff_injective_get.mp h hsame))

end RadioFrame
