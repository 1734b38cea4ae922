import Mathlib.Tactic.Lemma

/-!
Steps that may fail, one after the other.

The readers and the checks of the library are chains of such steps. `ok_bind` and `error_bind`
take a chain apart from the front, `bind_eq_ok` and `mapError_eq_ok` from a known result.

Two outcomes are alike (`Alike`) when they have the same success, if any; how they fail may differ.
Chains of steps that are alike are alike (`Alike.bind`).
-/

namespace RadioFrame

section

variable {α β ε ε' : Type}

@[simp] lemma ok_bind (a : α) (f : α → Except ε β) : (Except.ok a >>= f) = f a := rfl

@[simp] lemma error_bind (e : ε) (f : α → Except ε β) : (Except.error e >>= f) = .error e := rfl

@[simp] lemma mapError_ok (f : ε → ε') (a : α) :
    (Except.ok a : Except ε α).mapError f = .ok a := rfl

@[simp] lemma mapError_error (f : ε → ε') (e : ε) :
    (Except.error e : Except ε α).mapError f = .error (f e) := rfl

/-- A chain succeeds exactly when its first step does and the rest does on what the step gave. -/
lemma bind_eq_ok {x : Except ε α} {f : α → Except ε β} {b : β} :
    (x >>= f) = .ok b ↔ ∃ a, x = .ok a ∧ f a = .ok b := by
  cases x with
  | error e => simp
  | ok a => simp

/-- Another wording of the error changes no success. -/
lemma mapError_eq_ok {x : Except ε α} {f : ε → ε'} {a : α} :
    x.mapError f = .ok a ↔ x = .ok a := by
  cases x with
  | error e => simp
  | ok b => simp

/-! ### The same successes -/

/-- Two outcomes that succeed alike: with the same result, or both not at all. -/
def Alike (x y : Except ε α) : Prop := ∀ a, x = .ok a ↔ y = .ok a

lemma Alike.refl (x : Except ε α) : Alike x x := fun _ => Iff.rfl

lemma Alike.trans {x y z : Except ε α} (hxy : Alike x y) (hyz : Alike y z) : Alike x z := fun a =>
  (hxy a).trans (hyz a)

lemma Alike.bind {x y : Except ε α} {f g : α → Except ε β} (hx : Alike x y)
    (hf : ∀ a, Alike (f a) (g a)) : Alike (x >>= f) (y >>= g) := by
  intro b
  rw [bind_eq_ok, bind_eq_ok]
  exact exists_congr fun a => and_congr (hx a) (hf a b)

lemma Alike.mapError {x y : Except ε α} (h : Alike x y) (f g : ε → ε') :
    Alike (x.mapError f) (y.mapError g) := by
  intro a
  rw [mapError_eq_ok, mapError_eq_ok]
  exact h a

end

end RadioFrame
