import RadioFrame.Proofs.Outcome
import RadioFrame.Row

/-!
Rows as lists.

What is made of every value of a row, as a list: `map_toList` and `toList_map` move a function from
one side of `toList` to the other, `mem_toList` and `mem_toList_iff` say where an element comes
from.

The value at a place is known after a function was applied (`get_map`) and after a value was
replaced, there (`get_set_self`) or elsewhere (`get_set_of_ne`). Two rows are put together entry by
entry with `zipWith`, and a row is made by a fallible function with `tryOfFn`.
-/

namespace RadioFrame.Row

variable {ι α β : Type} {V W : ι → Type}

lemma map_toList (g : α → β) (f : ∀ i, V i → α) :
    ∀ {is : List ι} (row : Row V is), (row.toList f).map g = row.toList fun i v => g (f i v)
  | [], () => rfl
  | _ :: _, (_, row) => congrArg (List.cons _) (map_toList g f row)

lemma toList_map (f : ∀ i, W i → α) (g : ∀ i, V i → W i) :
    ∀ {is : List ι} (row : Row V is), (row.map g).toList f = row.toList fun i v => f i (g i v)
  | [], () => rfl
  | _ :: _, (_, row) => congrArg (List.cons _) (toList_map f g row)

lemma map_ofFn (g : ∀ i, V i → W i) (f : ∀ i, V i) :
    ∀ is : List ι, (ofFn f is).map g = ofFn (fun i => g i (f i)) is
  | [] => rfl
  | _ :: is => congrArg (Prod.mk _) (map_ofFn g f is)

lemma get_ofFn {f : ∀ i, V i} :
    ∀ {is : List ι} (k : Fin is.length), (ofFn f is).get k = f (is.get k)
  | _ :: _, ⟨0, _⟩ => rfl
  | _ :: is, ⟨k + 1, h⟩ => get_ofFn (⟨k, Nat.lt_of_succ_lt_succ h⟩ : Fin is.length)

lemma get_map (g : ∀ i, V i → W i) :
    ∀ {is : List ι} (row : Row V is) (k : Fin is.length),
      (row.map g).get k = g (is.get k) (row.get k)
  | _ :: _, (_, _), ⟨0, _⟩ => rfl
  | _ :: is, (_, row), ⟨k + 1, h⟩ => get_map g row (⟨k, Nat.lt_of_succ_lt_succ h⟩ : Fin is.length)

lemma mem_toList_iff {f : ∀ i, V i → α} {a : α} :
    ∀ {is : List ι} {row : Row V is}, a ∈ row.toList f ↔
      ∃ k : Fin is.length, a = f (is.get k) (row.get k)
  | [], () => ⟨nofun, fun ⟨k, _⟩ => k.elim0⟩
  | i :: is, (v, row) => by
      rw [toList, List.mem_cons, mem_toList_iff]
      constructor
      · rintro (rfl | ⟨k, rfl⟩)
        · exact ⟨⟨0, Nat.succ_pos _⟩, rfl⟩
        · exact ⟨k.succ, rfl⟩
      · rintro ⟨⟨_ | k, hk⟩, rfl⟩
        · exact .inl rfl
        · exact .inr ⟨⟨k, Nat.lt_of_succ_lt_succ hk⟩, rfl⟩

lemma mem_toList {f : ∀ i, V i → α} {a : α} {is : List ι} {row : Row V is}
    (h : a ∈ row.toList f) : ∃ i ∈ is, ∃ v, a = f i v := by
  obtain ⟨k, rfl⟩ := mem_toList_iff.mp h
  exact ⟨is.get k, List.get_mem _ _, row.get k, rfl⟩

lemma get_set_self :
    ∀ {is : List ι} (row : Row V is) (k : Fin is.length) (v : V (is.get k)), (row.set k v).get k = v
  | _ :: _, (_, _), ⟨0, _⟩, _ => rfl
  | _ :: is, (_, row), ⟨k + 1, h⟩, v =>
      get_set_self row (⟨k, Nat.lt_of_succ_lt_succ h⟩ : Fin is.length) v

lemma get_set_of_ne :
    ∀ {is : List ι} (row : Row V is) {j k : Fin is.length} (v : V (is.get k)), j ≠ k →
      (row.set k v).get j = row.get j
  | _ :: _, (_, _), ⟨0, _⟩, ⟨0, _⟩, _, h => absurd rfl h
  | _ :: _, (_, _), ⟨0, _⟩, ⟨_ + 1, _⟩, _, _ => rfl
  | _ :: _, (_, _), ⟨_ + 1, _⟩, ⟨0, _⟩, _, _ => rfl
  | _ :: is, (_, row), ⟨j + 1, hj⟩, ⟨k + 1, hk⟩, v, h =>
      get_set_of_ne row (j := (⟨j, Nat.lt_of_succ_lt_succ hj⟩ : Fin is.length))
        (k := ⟨k, Nat.lt_of_succ_lt_succ hk⟩) v fun heq => h (congrArg Fin.succ heq)

/-- Puts two rows together, entry by entry. -/
def zipWith (f : ∀ i, V i → V i → V i) : {is : List ι} → Row V is → Row V is → Row V is
  | [], (), () => ()
  | i :: _, (v, r), (w, q) => (f i v w, zipWith f r q)

/-- A row of blank values on the left changes nothing if that is so for each. -/
lemma zipWith_ofFn {f : ∀ i, V i → V i → V i} {blank : ∀ i, V i} (h : ∀ i v, f i (blank i) v = v) :
    ∀ {is : List ι} (row : Row V is), zipWith f (ofFn blank is) row = row
  | [], () => rfl
  | i :: _, (v, row) => by rw [ofFn, zipWith, h, zipWith_ofFn h row]

/-- What is made of the values of two rows can be put together before or after. -/
lemma zipWith_map {f : ∀ i, V i → V i → V i} {g : ∀ i, W i → W i → W i} {make : ∀ i, V i → W i}
    (h : ∀ i a b, g i (make i a) (make i b) = make i (f i a b)) :
    ∀ {is : List ι} (row row' : Row V is),
      zipWith g (row.map make) (row'.map make) = (zipWith f row row').map make
  | [], (), () => rfl
  | i :: _, (v, row), (w, row') => by
      rw [map, map, zipWith, zipWith, map, h, zipWith_map h row row']

/-- The row whose value at every entry is given by a fallible function; the first failure is the
answer. -/
def tryOfFn {ε : Type} (f : ∀ i, Except ε (V i)) : (is : List ι) → Except ε (Row V is)
  | [] => .ok ()
  | i :: is => do
      let v ← f i
      let rest ← tryOfFn f is
      .ok (v, rest)

lemma tryOfFn_eq_ok_iff {ε : Type} {f : ∀ i, Except ε (V i)} :
    ∀ {is : List ι} {row : Row V is},
      tryOfFn f is = .ok row ↔ ∀ k : Fin is.length, f (is.get k) = .ok (row.get k)
  | [], () => ⟨fun _ k => k.elim0, fun _ => rfl⟩
  | i :: is, (v, row) => by
      constructor
      · intro h
        obtain ⟨_, hfirst, hok⟩ := bind_eq_ok.mp h
        obtain ⟨_, hrest, heq⟩ := bind_eq_ok.mp hok
        cases heq
        rintro ⟨_ | k, hk⟩
        · exact hfirst
        · exact tryOfFn_eq_ok_iff.mp hrest ⟨k, Nat.lt_of_succ_lt_succ hk⟩
      · intro h
        have hrest : tryOfFn f is = .ok row := tryOfFn_eq_ok_iff.mpr fun k => h k.succ
        exact bind_eq_ok.mpr ⟨v, h ⟨0, Nat.succ_pos _⟩, bind_eq_ok.mpr ⟨row, hrest, rfl⟩⟩

lemma tryOfFn_congr {ε : Type} {f g : ∀ i, Except ε (V i)} :
    ∀ {is : List ι}, (∀ i ∈ is, f i = g i) → tryOfFn f is = tryOfFn g is
  | [], _ => rfl
  | i :: is, h => by
      rw [tryOfFn, tryOfFn, h i List.mem_cons_self,
        tryOfFn_congr fun j hj => h j (List.mem_cons_of_mem _ hj)]

end RadioFrame.Row
