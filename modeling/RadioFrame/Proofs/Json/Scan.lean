import Mathlib.Tactic.Lemma
import RadioFrame.Json.Token
import RadioFrame.Json.Value

/-!
The tokens of written values, and what tells them apart.

* `Value.tokens`: the tokens of a value, whatever the layout.
* `EndsNumeral`: what may follow a numeral, which everything else would make longer.
* `Numeral.value?_ofInt`, `joinPieces?_pieceOf`: the numeral of a whole number stands for that
  number, and the pieces of a text for its characters.
-/

namespace RadioFrame.Json

/-! ### The tokens of a value -/

/-- The numeral of a whole number: its digits, after a minus sign if it is negative. -/
def Numeral.ofInt : Int → Numeral
  | .ofNat n => ⟨false, Nat.toDigits 10 n, none, none⟩
  | .negSucc n => ⟨true, Nat.toDigits 10 (n + 1), none, none⟩

/-- What goes before an element or a member: nothing before the first. -/
def separator (isFirst : Bool) : List Token := if isFirst then [] else [.comma]

mutual

/-- The tokens of a value. -/
def Value.tokens : Value → List Token
  | .null => [.null]
  | .bool b => [.bool b]
  | .number n => [.number (.ofInt n)]
  | .text s => [.text (some s)]
  | .array vs => .leftBracket :: vs.tokens true ++ [.rightBracket]
  | .object ms => .leftBrace :: ms.tokens true ++ [.rightBrace]

/-- The tokens of elements, a comma before each but the first of all. -/
def Elements.tokens : Elements → Bool → List Token
  | .nil, _ => []
  | .cons v vs, isFirst => separator isFirst ++ v.tokens ++ vs.tokens false

/-- The tokens of members, a comma before each but the first of all. -/
def Members.tokens : Members → Bool → List Token
  | .nil, _ => []
  | .cons k v ms, isFirst =>
      separator isFirst ++ .text (some k) :: .colon :: v.tokens ++ ms.tokens false

end

/-! ### Numerals -/

/-- Whether a character after a numeral would belong to it. -/
def prolongs (c : Char) : Bool := c.isDigit || c = '.' || c = 'e' || c = 'E'

/-- A numeral ends before these characters. -/
def EndsNumeral (cs : List Char) : Prop := ∀ c ∈ cs.head?, prolongs c = false

lemma endsNumeral_cons {c : Char} (cs : List Char) (h : prolongs c = false) :
    EndsNumeral (c :: cs) := by
  simp [EndsNumeral, h]

lemma EndsNumeral.append {cs rest : List Char} (hcs : EndsNumeral cs) (hrest : EndsNumeral rest) :
    EndsNumeral (cs ++ rest) := by
  cases cs with
  | nil => exact hrest
  | cons c cs => simpa [EndsNumeral] using hcs

/-- A run of digits ends before these characters. -/
def EndsDigits (cs : List Char) : Prop := ∀ c ∈ cs.head?, c.isDigit = false

lemma EndsNumeral.endsDigits {cs : List Char} (h : EndsNumeral cs) : EndsDigits cs := by
  intro c hc
  have hprolongs := h c hc
  simp only [prolongs, Bool.or_eq_false_iff] at hprolongs
  exact hprolongs.1.1.1

lemma takeDigits_append {ds rest : List Char} (hds : ∀ c ∈ ds, c.isDigit)
    (hrest : EndsDigits rest) :
    takeDigits (ds ++ rest) = (ds, rest) := by
  have hstop : rest.takeWhile Char.isDigit = [] ∧ rest.dropWhile Char.isDigit = rest := by
    cases rest with
    | nil => simp
    | cons c cs => simp [hrest c rfl]
  rw [takeDigits, List.takeWhile_append_of_pos hds, List.dropWhile_append_of_pos hds, hstop.1,
    hstop.2, List.append_nil]

lemma scanExponent?_of_ends {rest : List Char} (h : EndsNumeral rest) :
    scanExponent? rest = some (none, rest) := by
  cases rest with
  | nil => rfl
  | cons c cs =>
      have hc : c ≠ 'e' ∧ c ≠ 'E' := by
        have := h c rfl
        simp only [prolongs, Bool.or_eq_false_iff, decide_eq_false_iff_not] at this
        exact ⟨this.1.2, this.2⟩
      rw [scanExponent?, if_neg (not_or.mpr hc)]

lemma isDigit_of_mem_toDigits {n : Nat} {c : Char} (h : c ∈ Nat.toDigits 10 n) : c.isDigit :=
  Nat.isDigit_of_mem_toDigits (by decide) (by decide) h

/-- The digits of a number begin with a digit. -/
lemma exists_toDigits (n : Nat) : ∃ c cs, Nat.toDigits 10 n = c :: cs ∧ c.isDigit := by
  obtain ⟨c, cs, hcs⟩ := List.exists_cons_of_ne_nil (Nat.toDigits_ne_nil (n := n) (b := 10))
  exact ⟨c, cs, hcs, isDigit_of_mem_toDigits (hcs ▸ List.mem_cons_self)⟩

/-- Only zero is written with a zero in front. -/
lemma head?_toDigits_ne {n : Nat} (h : 0 < n) : (Nat.toDigits 10 n).head? ≠ some '0' := by
  induction n using Nat.strongRecOn with
  | _ n ih =>
      rcases Nat.lt_or_ge n 10 with hn | hn
      · rw [Nat.toDigits_of_lt_base hn]
        have hdigit : ∀ n < 10, 0 < n → Nat.digitChar n ≠ '0' := by decide
        simpa using hdigit n hn h
      · obtain ⟨c, cs, hcs, -⟩ := exists_toDigits (n / 10)
        have hfront := ih (n / 10) (by omega) (by omega)
        rw [hcs] at hfront
        rw [Nat.toDigits_of_base_le (by decide) hn, hcs]
        simpa using hfront

/-- Only a lone zero begins with zero. -/
lemma length_toDigits {n : Nat} (h : (Nat.toDigits 10 n).head? = some '0') :
    (Nat.toDigits 10 n).length = 1 := by
  cases n with
  | zero => rfl
  | succ n => exact absurd h (head?_toDigits_ne n.succ_pos)

/-- Whether a character begins a numeral. -/
def beginsNumeral (c : Char) : Bool := c = '-' || c.isDigit

lemma isBlank_of_beginsNumeral {c : Char} (h : beginsNumeral c) : isBlank c = false := by
  simp only [isBlank, Bool.or_eq_false_iff, decide_eq_false_iff_not]
  refine ⟨⟨⟨?_, ?_⟩, ?_⟩, ?_⟩ <;> rintro rfl <;> exact absurd h (by decide)

lemma scanToken?_of_beginsNumeral {c : Char} {cs : List Char} (h : beginsNumeral c) :
    scanToken? (c :: cs) = (scanNumeral? (c :: cs)).map fun (n, rest) => (.number n, rest) := by
  rw [scanToken?]
  · cases scanNumeral? (c :: cs) <;> rfl
  · exact List.cons_ne_nil c cs
  all_goals
    rintro _ ⟨⟩
    exact absurd h (by decide)

/-- What the numeral of a whole number of 64 bits, signed or not, stands for. -/
lemma Numeral.value?_ofInt {n : Int} (hlow : -0x8000000000000000 ≤ n) (hhigh : n < UInt64.size) :
    (Numeral.ofInt n).value? = some (.integer n) := by
  cases n with
  | ofNat n =>
      have : n < UInt64.size := Int.ofNat_lt.mp hhigh
      simp [Numeral.ofInt, Numeral.value?, this]
  | negSucc n =>
      have : n + 1 ≤ 0x8000000000000000 := by omega
      simp [Numeral.ofInt, Numeral.value?, this]
      omega

/-! ### Texts -/

/-- The piece that a written character is cut into. -/
def pieceOf (c : Char) : Piece :=
  if c.toNat < 32 ∧ c ∉ ['\x08', '\x0c', '\n', '\r', '\t'] then .unit c.toNat else .char c

/-- A control character is written by its number. -/
lemma fourDigits?_of_control : ∀ n < 32,
    fourDigits? '0' '0' (Nat.digitChar (n / 16)) (Nat.digitChar (n % 16)) = some n := by decide

/-- The pieces of a text give its characters again. -/
lemma joinPieces?_pieceOf (cs : List Char) : joinPieces? (cs.map pieceOf) = some cs := by
  induction cs with
  | nil => rfl
  | cons c cs ih =>
      rw [List.map_cons, pieceOf]
      split
      · next h =>
          have hbelow : c.toNat < 32 := h.1
          unfold joinPieces?
          rw [if_neg (by omega), if_neg (by omega), ih, Char.ofNat_toNat]
          rfl
      · rw [joinPieces?, ih]
        rfl

end RadioFrame.Json
