import Mathlib.Tactic.Lemma

/-!
One bit of a word.

A machine comes to a bit of a word by the word of that bit alone: a one, shifted to its place. A
word of some width can be shifted by fewer places than it has bits, and by no more (`Bits.single?`).
Wherever a word has a place,

* `Bits.test?_of_lt`: what is found out with the word of one bit is that bit;
* `Bits.exists_set`: setting its bit can be done, and leaves the others.
-/

namespace RadioFrame.Bits

variable {width place : Nat} {word : BitVec width}

/-- The word of one bit, if a word can be shifted to its place. -/
def single? (width place : Nat) : Option (BitVec width) :=
  if place < width then some (BitVec.ofNat width 1 <<< place) else none

/-- Whether a word has the bit of a place, told by what it shares with the word of that bit. -/
def test? (word : BitVec width) (place : Nat) : Option Bool :=
  (single? width place).map fun bit => word &&& bit != 0

/-- A word together with the bit of a place. -/
def set? (word : BitVec width) (place : Nat) : Option (BitVec width) :=
  (single? width place).map fun bit => word ||| bit

lemma single?_of_lt (h : place < width) :
    single? width place = some (BitVec.twoPow width place) := by
  rw [single?, if_pos h, BitVec.twoPow_eq]

lemma test?_of_lt (h : place < width) : test? word place = some (word.getLsbD place) := by
  have hbit : BitVec.twoPow width place ≠ 0 := by
    intro hzero
    have hone : (BitVec.twoPow width place).getLsbD place = true := by
      rw [BitVec.getLsbD_twoPow, decide_eq_true h, decide_eq_true rfl, Bool.and_self]
    rw [hzero] at hone
    simp at hone
  rw [test?, single?_of_lt h, Option.map_some, BitVec.and_twoPow]
  cases word.getLsbD place with
  | false => simp
  | true => simpa using hbit

/-- A bit is set without any change to the others. -/
lemma exists_set (word : BitVec width) (h : place < width) :
    ∃ marked, set? word place = some marked ∧
      ∀ n, marked.getLsbD n = (word.getLsbD n || decide (n = place)) := by
  refine ⟨word ||| BitVec.twoPow width place, ?_, fun n => ?_⟩
  · rw [set?, single?_of_lt h, Option.map_some]
  · rw [BitVec.getLsbD_or, BitVec.getLsbD_twoPow, decide_eq_true h, Bool.true_and,
      decide_eq_decide.mpr eq_comm]

end RadioFrame.Bits
