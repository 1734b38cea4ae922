/-!
Rows and alternatives over a list or type of entries, the type of each value given by its entry.

* `Row V is`: one value for every entry of `is`, in order: the fields of a message.
* `OneOf V`: one value for one chosen entry: the member of a group of exclusive fields that is set.

Both are plain data with decidable equality, so a message of any description can be compared,
built by recursion on its description and reasoned about by induction on it.
-/

namespace RadioFrame

/-- Applies a fallible function to every element in order; the first failure is the answer. -/
def tryEach {α β ε : Type} (f : α → Except ε β) : List α → Except ε (List β)
  | [] => .ok []
  | a :: as => do
      let b ← f a
      let bs ← tryEach f as
      .ok (b :: bs)

/-- Applies a fallible function to a value that may be absent. -/
def tryOption {α β ε : Type} (f : α → Except ε β) : Option α → Except ε (Option β)
  | none => .ok none
  | some a => do
      let b ← f a
      .ok (some b)

/-- One value for each entry of a list, the type of each given by its entry. -/
def Row {ι : Type} (V : ι → Type) : List ι → Type
  | [] => Unit
  | i :: is => V i × Row V is

namespace Row

variable {ι : Type} {V W : ι → Type}

/-- The row whose value at every entry is given by a function. -/
def ofFn (f : ∀ i, V i) : (is : List ι) → Row V is
  | [] => ()
  | i :: is => (f i, ofFn f is)

/-- Applies a function to every value. -/
def map (f : ∀ i, V i → W i) : {is : List ι} → Row V is → Row W is
  | [], () => ()
  | i :: _, (v, r) => (f i v, map f r)

/-- Applies a fallible function to every value in order; the first failure is the answer. -/
def tryMap {ε : Type} (f : ∀ i, V i → Except ε (W i)) :
    {is : List ι} → Row V is → Except ε (Row W is)
  | [], () => .ok ()
  | i :: _, (v, r) => do
      let w ← f i v
      let rest ← tryMap f r
      .ok (w, rest)

/-- The row whose value at every entry is given by a function, if it gives one at all of them. -/
def ofFn? (f : ∀ i, Option (V i)) : (is : List ι) → Option (Row V is)
  | [] => some ()
  | i :: is => do
      let v ← f i
      let rest ← ofFn? f is
      some (v, rest)

/-- The value at a place. -/
def get : {is : List ι} → Row V is → (k : Fin is.length) → V is[k]
  | _ :: _, (v, _), ⟨0, _⟩ => v
  | _ :: _, (_, r), ⟨k + 1, h⟩ => get r ⟨k, Nat.lt_of_succ_lt_succ h⟩

/-- Replaces the value at a place. -/
def set : {is : List ι} → Row V is → (k : Fin is.length) → V is[k] → Row V is
  | _ :: _, (_, r), ⟨0, _⟩, w => (w, r)
  | _ :: _, (v, r), ⟨k + 1, h⟩, w => (v, set r ⟨k, Nat.lt_of_succ_lt_succ h⟩ w)

/-- The values of a row as a list, each made into one common type. -/
def toList {α : Type} (f : ∀ i, V i → α) : {is : List ι} → Row V is → List α
  | [], () => []
  | i :: _, (v, r) => f i v :: toList f r

/-- Equality of rows is decided entry by entry. -/
instance decEq [∀ i, DecidableEq (V i)] : (is : List ι) → DecidableEq (Row V is)
  | [] => fun _ _ => isTrue rfl
  | i :: is =>
      have : DecidableEq (Row V is) := decEq is
      inferInstanceAs (DecidableEq (V i × Row V is))

end Row

/-- The one member of a group of exclusive members that is set, with its value. -/
structure OneOf {ι : Type} (V : ι → Type) where
  /-- Which member is set. -/
  member : ι
  /-- Its value. -/
  value : V member

namespace OneOf

variable {ι : Type} {V : ι → Type}

/-- Equality asks for the same member, then for equal values. -/
instance decEq [DecidableEq ι] [∀ i, DecidableEq (V i)] : DecidableEq (OneOf V)
  | ⟨i, v⟩, ⟨j, w⟩ =>
      if h : i = j then by
        subst h
        exact if hv : v = w then isTrue (by rw [hv])
          else isFalse fun e => hv (eq_of_heq (OneOf.mk.inj e).2)
      else isFalse fun e => h (OneOf.mk.inj e).1

/-- The value held for member `i`: the current one if that member is set, `blank i` otherwise. -/
def valueAt [DecidableEq ι] (blank : ∀ i, V i) (current : Option (OneOf V)) (i : ι) : V i :=
  match current with
  | none => blank i
  | some c => if h : c.member = i then h ▸ c.value else blank i

end OneOf

end RadioFrame
