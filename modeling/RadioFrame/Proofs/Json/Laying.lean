import Mathlib.Data.List.TakeWhile
import RadioFrame.Proofs.Json.Document

/-!
Tokens laid out as text.

JSON leaves some freedom in how a token is spelled (`Token.Spelled`): every character of a text may
be named by its number, and some by a letter; the letter of an exponent has two cases. Between
tokens any blanks may stand (`Laid`). However tokens are laid out, the text is cut into them again
(`scan_of_laid`), and every way of writing a value is one of laying its tokens out (`Value.laid`): a
written value is cut into its tokens (`scan_render`).
-/

namespace RadioFrame.Json

/-! ### Spelled tokens -/

/-- Digits, at least one. -/
def IsDigits (ds : List Char) : Prop := ds ≠ [] ∧ ∀ c ∈ ds, c.isDigit

/-- The ways of spelling a fraction: a point and digits, if there is one. -/
def SpelledFraction : Option (List Char) → List Char → Prop
  | none, cs => cs = []
  | some ds, cs => cs = '.' :: ds ∧ IsDigits ds

/-- The ways of spelling an exponent: a letter of either case, a sign, which may be left out unless
it is a minus sign, and digits, if there is one. -/
def SpelledExponent : Option (Bool × List Char) → List Char → Prop
  | none, cs => cs = []
  | some (negative, ds), cs =>
      ∃ letter sign, cs = letter :: sign ++ ds ∧ (letter = 'e' ∨ letter = 'E') ∧
        (sign = ['-'] ∧ negative = true ∨ (sign = [] ∨ sign = ['+']) ∧ negative = false) ∧
        IsDigits ds

/-- The ways of spelling a numeral. Only a lone zero begins with zero. -/
def Numeral.Spelled (n : Numeral) (cs : List Char) : Prop :=
  ∃ fraction exponent,
    cs = (if n.negative then ['-'] else []) ++ n.whole ++ fraction ++ exponent ∧
      IsDigits n.whole ∧ (n.whole.head? = some '0' → n.whole.length = 1) ∧
      SpelledFraction n.fraction fraction ∧ SpelledExponent n.exponent exponent

/-- The ways of spelling a piece of a text: a character for itself, unless it has to be named, or a
letter that names it; a number by four digits. -/
def Piece.Spelled : Piece → List Char → Prop
  | .char c, cs =>
      (cs = [c] ∧ 32 ≤ c.toNat ∧ c ≠ '"' ∧ c ≠ '\\') ∨
        ∃ letter, cs = ['\\', letter] ∧ namedChar? letter = some c
  | .unit n, cs => ∃ a b c d, cs = ['\\', 'u', a, b, c, d] ∧ fourDigits? a b c d = some n

/-- The ways of spelling a text: one piece after the other, between quotation marks. -/
def SpelledText (content : Option String) (cs : List Char) : Prop :=
  ∃ pieces chunks, List.Forall₂ Piece.Spelled pieces chunks ∧ cs = '"' :: chunks.flatten ++ ['"'] ∧
    content = (joinPieces? pieces).map String.ofList

/-- The ways of spelling a token. -/
def Token.Spelled : Token → List Char → Prop
  | .leftBrace, cs => cs = ['\x7b']
  | .rightBrace, cs => cs = ['\x7d']
  | .leftBracket, cs => cs = ['[']
  | .rightBracket, cs => cs = [']']
  | .comma, cs => cs = [',']
  | .colon, cs => cs = [':']
  | .null, cs => cs = ['n', 'u', 'l', 'l']
  | .bool true, cs => cs = ['t', 'r', 'u', 'e']
  | .bool false, cs => cs = ['f', 'a', 'l', 's', 'e']
  | .number n, cs => n.Spelled cs
  | .text content, cs => SpelledText content cs
  | .malformed, _ => False

/-- Tokens one after the other, with blanks before, between and after them. -/
inductive Laid : List Token → List Char → Prop
  | nil {blanks : List Char} (h : ∀ c ∈ blanks, isBlank c) : Laid [] blanks
  | cons {blanks cs rest : List Char} {t : Token} {ts : List Token}
      (hblanks : ∀ c ∈ blanks, isBlank c)
      (ht : t.Spelled cs) (hrest : Laid ts rest) : Laid (t :: ts) (blanks ++ cs ++ rest)

/-! ### Numerals -/

section

variable {cs rest : List Char}

/-- Before an exponent digits end, and no fraction begins. -/
lemma SpelledExponent.ends {exponent : Option (Bool × List Char)} (h : SpelledExponent exponent cs)
    (hrest : EndsNumeral rest) : EndsDigits (cs ++ rest) ∧ '.' ∉ (cs ++ rest).head? := by
  cases exponent with
  | none =>
      obtain rfl : cs = [] := h
      refine ⟨hrest.endsDigits, fun hpoint => ?_⟩
      exact absurd (hrest '.' hpoint) (by decide)
  | some e =>
      obtain ⟨letter, sign, rfl, hletter, -, -⟩ := h
      rcases hletter with rfl | rfl <;> exact ⟨by rintro _ ⟨⟩; decide, by rintro ⟨⟩⟩

lemma SpelledExponent.scan {exponent : Option (Bool × List Char)} (h : SpelledExponent exponent cs)
    (hrest : EndsNumeral rest) : scanExponent? (cs ++ rest) = some (exponent, rest) := by
  cases exponent with
  | none =>
      obtain rfl : cs = [] := h
      exact scanExponent?_of_ends hrest
  | some e =>
      obtain ⟨negative, ds⟩ := e
      obtain ⟨letter, sign, rfl, hletter, hsign, hds⟩ := h
      have hscan : scanSign (sign ++ (ds ++ rest)) = (negative, ds ++ rest) := by
        rcases hsign with ⟨rfl, rfl⟩ | ⟨rfl | rfl, rfl⟩
        · rfl
        · -- no digit is taken for a sign
          obtain ⟨c, ds', rfl⟩ := List.exists_cons_of_ne_nil hds.1
          have hc : c.isDigit := hds.2 c List.mem_cons_self
          rw [List.nil_append, List.cons_append, scanSign]
          all_goals
            rintro cs ⟨⟩
            exact absurd hc (by decide)
        · rfl
      rw [List.append_assoc, List.cons_append, scanExponent?, if_pos hletter, hscan]
      dsimp only
      rw [takeDigits_append hds.2 hrest.endsDigits]
      exact if_neg hds.1

lemma SpelledFraction.ends {fraction : Option (List Char)} (h : SpelledFraction fraction cs)
    (hrest : EndsDigits rest) : EndsDigits (cs ++ rest) := by
  cases fraction with
  | none =>
      obtain rfl : cs = [] := h
      exact hrest
  | some ds =>
      obtain ⟨rfl, -⟩ := h
      rintro _ ⟨⟩
      decide

lemma SpelledFraction.scan {fraction : Option (List Char)} (h : SpelledFraction fraction cs)
    (hrest : EndsDigits rest ∧ '.' ∉ rest.head?) :
    scanFraction? (cs ++ rest) = some (fraction, rest) := by
  cases fraction with
  | none =>
      obtain rfl : cs = [] := h
      rw [List.nil_append, scanFraction?]
      rintro cs rfl
      exact hrest.2 rfl
  | some ds =>
      obtain ⟨rfl, hds⟩ := h
      rw [List.cons_append, scanFraction?, takeDigits_append hds.2 hrest.1]
      exact if_neg hds.1

/-- A spelled numeral is cut off where it ends. -/
lemma Numeral.Spelled.scan {n : Numeral} (h : n.Spelled cs) (hrest : EndsNumeral rest) :
    scanNumeral? (cs ++ rest) = some (n, rest) := by
  obtain ⟨negative, whole, fraction, exponent⟩ := n
  obtain ⟨fractionText, exponentText, rfl, hwhole, hzero, hfraction, hexponent⟩ := h
  dsimp only at hwhole hzero hfraction hexponent ⊢
  have hends := hexponent.ends hrest
  have htake := takeDigits_append hwhole.2 (hfraction.ends hends.1)
  have hlone : ¬(whole = [] ∨ (whole.head? = some '0' ∧ 1 < whole.length)) := by
    rintro (hnil | ⟨hhead, hlong⟩)
    · exact hwhole.1 hnil
    · have := hzero hhead
      omega
  cases negative with
  | true =>
      simp only [if_true, List.cons_append, List.nil_append, List.append_assoc, scanNumeral?, htake,
        if_neg hlone, hfraction.scan hends, hexponent.scan hrest, Option.bind_eq_bind,
        Option.bind_some]
  | false =>
      have hsign : ∀ cs, whole ++ (fractionText ++ (exponentText ++ rest)) ≠ '-' :: cs := by
        obtain ⟨c, ds, rfl⟩ := List.exists_cons_of_ne_nil hwhole.1
        rintro cs ⟨⟩
        exact absurd (hwhole.2 '-' List.mem_cons_self) (by decide)
      simp only [Bool.false_eq_true, if_false, List.nil_append, List.append_assoc, scanNumeral?,
        htake, if_neg hlone, hfraction.scan hends, hexponent.scan hrest, Option.bind_eq_bind,
        Option.bind_some]

/-- A spelled numeral begins with a minus sign or a digit. -/
lemma Numeral.Spelled.begins {n : Numeral} (h : n.Spelled cs) :
    ∃ c cs', cs = c :: cs' ∧ beginsNumeral c := by
  obtain ⟨fractionText, exponentText, rfl, hwhole, -⟩ := h
  obtain ⟨c, ds, hds⟩ := List.exists_cons_of_ne_nil hwhole.1
  cases n.negative with
  | true => exact ⟨'-', _, rfl, rfl⟩
  | false =>
      have hc : c.isDigit := hwhole.2 c (hds ▸ List.mem_cons_self)
      rw [hds]
      exact ⟨c, _, rfl, by simp [beginsNumeral, hc]⟩

end

/-! ### Texts -/

/-- A spelled piece is cut off where it ends. -/
lemma Piece.Spelled.scan {p : Piece} {cs rest left : List Char} {ps : List Piece}
    (hp : p.Spelled cs)
    (h : scanText? rest = some (ps, left)) : scanText? (cs ++ rest) = some (p :: ps, left) := by
  cases p with
  | char c =>
      rcases hp with ⟨rfl, hcontrol, hquote, hbackslash⟩ | ⟨letter, rfl, hletter⟩
      · have hplain : ¬(c.toNat < 32 ∨ c = '\\') := not_or.mpr ⟨by omega, hbackslash⟩
        rw [List.singleton_append, scanText?, if_neg hplain, h]
        · rfl
        · exact hquote
        · exact fun _ _ _ _ _ hc _ => hbackslash hc
        · exact fun _ _ hc _ => hbackslash hc
      · have hu : letter ≠ 'u' := by
          rintro rfl
          cases hletter
        rw [List.cons_append, List.singleton_append, scanText?, hletter]
        · simp [h]
        · exact fun _ _ _ _ _ hc _ => hu hc
  | unit n =>
      obtain ⟨a, b, c, d, rfl, hn⟩ := hp
      simp only [List.cons_append, List.nil_append, scanText?, hn, h, Option.bind_eq_bind,
        Option.bind_some]

lemma scanText?_flatten {ps : List Piece} {chunks : List (List Char)}
    (h : List.Forall₂ Piece.Spelled ps chunks) (rest : List Char) :
    scanText? (chunks.flatten ++ '"' :: rest) = some (ps, rest) := by
  induction h with
  | nil => rfl
  | cons hp _ ih =>
      rw [List.flatten_cons, List.append_assoc]
      exact hp.scan ih

/-! ### Tokens -/

/-- The first character of a spelled token is no blank, and belongs to no numeral before it unless
the token is a number itself. -/
lemma Token.Spelled.begins {t : Token} {cs : List Char} (h : t.Spelled cs) :
    ∃ c cs', cs = c :: cs' ∧ isBlank c = false ∧
      (t.isNumber = false → prolongs c = false) := by
  cases t with
  | leftBrace | rightBrace | leftBracket | rightBracket | comma | colon | null =>
      obtain rfl := h
      exact ⟨_, _, rfl, rfl, fun _ => rfl⟩
  | bool b =>
      cases b <;>
        · obtain rfl := h
          exact ⟨_, _, rfl, rfl, fun _ => rfl⟩
  | number n =>
      obtain ⟨c, cs', rfl, hc⟩ := Numeral.Spelled.begins h
      exact ⟨c, cs', rfl, isBlank_of_beginsNumeral hc, nofun⟩
  | text content =>
      obtain ⟨_, _, _, rfl, _⟩ := h
      exact ⟨_, _, rfl, rfl, fun _ => rfl⟩
  | malformed => exact h.elim

/-- A spelled token is cut off where it ends. -/
lemma Token.Spelled.scan {t : Token} {cs rest : List Char} (h : t.Spelled cs)
    (hrest : t.isNumber = true → EndsNumeral rest) :
    scanToken? (cs ++ rest) = some (t, rest) := by
  cases t with
  | leftBrace | rightBrace | leftBracket | rightBracket | comma | colon | null =>
      obtain rfl := h
      rfl
  | bool b =>
      cases b <;>
        · obtain rfl := h
          rfl
  | number n =>
      have hscan := Numeral.Spelled.scan h (hrest rfl)
      obtain ⟨c, cs', rfl, hc⟩ := Numeral.Spelled.begins h
      rw [List.cons_append] at hscan ⊢
      rw [scanToken?_of_beginsNumeral hc, hscan]
      rfl
  | text content =>
      obtain ⟨ps, chunks, hchunks, rfl, rfl⟩ := h
      rw [List.append_assoc, List.cons_append, List.singleton_append, scanToken?,
        scanText?_flatten hchunks]
      rfl
  | malformed => exact h.elim

/-! ### Laid tokens -/

/-- Before laid tokens that do not begin with a number, a numeral ends. -/
lemma Laid.endsNumeral {ts : List Token} {cs : List Char} (h : Laid ts cs)
    (hts : ∀ t ∈ ts.head?, t.isNumber = false) : EndsNumeral cs := by
  have hblank : ∀ c, isBlank c → prolongs c = false := by
    intro c hc
    simp only [isBlank, Bool.or_eq_true, decide_eq_true_eq] at hc
    rcases hc with ((rfl | rfl) | rfl) | rfl <;> rfl
  have hblanks : ∀ blanks : List Char, (∀ c ∈ blanks, isBlank c) → EndsNumeral blanks :=
    fun blanks hall c hc => hblank c (hall c (List.mem_of_mem_head? hc))
  cases h with
  | nil hall => exact hblanks cs hall
  | @cons blanks cs rest t ts hall ht _ =>
      obtain ⟨c, cs', rfl, -, hends⟩ := ht.begins
      rw [List.append_assoc]
      exact (hblanks blanks hall).append (endsNumeral_cons _ (hends (hts t rfl)))

/-- Laid tokens are found again, unless two numbers stand side by side. -/
theorem scanTokens_of_laid {ts : List Token} {cs : List Char} (h : Laid ts cs)
    (hapart : ts.IsChain Token.Apart) (fuel : Nat) (hfuel : cs.length ≤ fuel) :
    scanTokens fuel cs = ts := by
  induction h generalizing fuel with
  | @nil blanks hblanks =>
      cases fuel with
      | zero => rfl
      | succ fuel => rw [scanTokens, List.dropWhile_eq_nil_iff.mpr hblanks]
  | @cons blanks cs rest t ts hblanks ht hrest ih =>
      obtain ⟨hnext, hapart⟩ := List.isChain_cons.mp hapart
      have hends : t.isNumber = true → EndsNumeral rest := fun hnumber =>
        hrest.endsNumeral fun u hu => (hnext u hu).resolve_left (by simp [hnumber])
      have hscan := ht.scan hends
      obtain ⟨c, cs', rfl, hblank, -⟩ := ht.begins
      simp only [List.length_append, List.length_cons] at hfuel
      cases fuel with
      | zero => omega
      | succ fuel =>
          rw [scanTokens, List.append_assoc, List.dropWhile_append_of_pos hblanks, List.cons_append,
            List.dropWhile_cons_of_neg (by rw [hblank]; exact Bool.false_ne_true)]
          rw [List.cons_append] at hscan
          dsimp only
          rw [hscan]
          dsimp only
          rw [ih hapart fuel (by omega)]

/-- However the tokens of a document are laid out, they are the tokens of the text. -/
theorem scan_of_laid {d : Document} {s : String} (h : Laid d.tokens s.toList) : scan s = d.tokens :=
  scanTokens_of_laid h d.isChain_tokens _ (by rw [String.length_toList])

/-! ### Written values -/

lemma Laid.blanks {ts : List Token} {blanks cs : List Char} (hblanks : ∀ c ∈ blanks, isBlank c)
    (h : Laid ts cs) : Laid ts (blanks ++ cs) := by
  have hboth {more : List Char} (hmore : ∀ c ∈ more, isBlank c) : ∀ c ∈ blanks ++ more, isBlank c :=
    fun c hc => (List.mem_append.mp hc).elim (hblanks c) (hmore c)
  cases h with
  | nil hmore => exact .nil (hboth hmore)
  | cons hmore ht hrest =>
      rw [← List.append_assoc, ← List.append_assoc]
      exact .cons (hboth hmore) ht hrest

lemma Laid.append {ts us : List Token} {cs ds : List Char} (h : Laid ts cs) (hs : Laid us ds) :
    Laid (ts ++ us) (cs ++ ds) := by
  induction h with
  | nil hblanks => exact hs.blanks hblanks
  | cons hblanks ht _ ih =>
      rw [List.append_assoc]
      exact .cons hblanks ht ih

/-- A token without blanks. -/
lemma Laid.mark {ts : List Token} {ds : List Char} (h : Laid ts ds) (t : Token) {cs : List Char}
    (ht : t.Spelled cs) : Laid (t :: ts) (cs ++ ds) :=
  .cons (List.forall_mem_nil _) ht h

lemma laid_token {t : Token} {cs : List Char} (ht : t.Spelled cs) : Laid [t] cs := by
  have hlaid : Laid [t] (cs ++ []) := Laid.mark (.nil (List.forall_mem_nil _)) t ht
  rwa [List.append_nil] at hlaid

/-- A character is written as its piece is spelled. -/
lemma spelled_escape (c : Char) : (pieceOf c).Spelled (escape c) := by
  unfold escape
  split
  -- the characters that are named by a letter come last
  case h_8 _ hquote hbackslash hb hf hn hr ht =>
    split
    · next hcontrol =>
        have hpiece : pieceOf c = .unit c.toNat := by
          refine if_pos ⟨hcontrol, ?_⟩
          simp only [List.mem_cons, List.not_mem_nil, or_false, not_or]
          exact ⟨hb, hf, hn, hr, ht⟩
        rw [hpiece]
        exact ⟨_, _, _, _, rfl, fourDigits?_of_control _ hcontrol⟩
    · next hcontrol =>
        have hpiece : pieceOf c = .char c := if_neg fun h => hcontrol h.1
        rw [hpiece]
        exact .inl ⟨rfl, Nat.le_of_not_lt hcontrol, hquote, hbackslash⟩
  all_goals exact .inr ⟨_, rfl, rfl⟩

lemma spelled_writeText (s : String) : Token.Spelled (.text (some s)) (writeText s) := by
  refine ⟨s.toList.map pieceOf, s.toList.map escape, ?_, by rw [writeText, List.flatMap_def], ?_⟩
  · rw [List.forall₂_map_left_iff, List.forall₂_map_right_iff, List.forall₂_same]
    exact fun c _ => spelled_escape c
  · rw [joinPieces?_pieceOf, Option.map_some, String.ofList_toList]

lemma spelled_writeNumber (n : Int) : Token.Spelled (.number (.ofInt n)) (writeNumber n) := by
  have hdigits (n : Nat) : IsDigits (Nat.toDigits 10 n) :=
    ⟨Nat.toDigits_ne_nil, fun _ => isDigit_of_mem_toDigits⟩
  cases n with
  | ofNat n =>
      refine ⟨[], [], ?_, hdigits n, length_toDigits, rfl, rfl⟩
      rw [List.append_nil, List.append_nil]
      rfl
  | negSucc n =>
      refine ⟨[], [], ?_, hdigits (n + 1), length_toDigits, rfl, rfl⟩
      rw [List.append_nil, List.append_nil]
      rfl

section Layouts

variable (layout : Layout)

lemma isBlank_of_lineBreak (depth : Nat) : ∀ c ∈ layout.lineBreak depth, isBlank c := by
  intro c hc
  cases layout with
  | compact => simp [Layout.lineBreak] at hc
  | indented =>
      simp only [Layout.lineBreak, List.mem_cons, List.mem_replicate] at hc
      rcases hc with rfl | ⟨-, rfl⟩ <;> rfl

lemma laid_close (depth : Nat) {t : Token} {c : Char} (h : t.Spelled [c]) :
    Laid [t] (layout.lineBreak depth ++ [c]) :=
  (laid_token h).blanks (isBlank_of_lineBreak layout depth)

lemma laid_member (depth : Nat) (key : String) {ts : List Token} {cs : List Char} (h : Laid ts cs) :
    Laid (.text (some key) :: .colon :: ts)
      (layout.lineBreak depth ++ (writeText key ++ (layout.colon ++ cs))) := by
  have hcolon : Laid (.colon :: ts) (layout.colon ++ cs) := by
    cases layout with
    | compact => exact h.mark .colon rfl
    | indented =>
        have hblank : ∀ c ∈ [' '], isBlank c := by simp [isBlank]
        exact (h.blanks hblank).mark .colon rfl
  exact (hcolon.mark _ (spelled_writeText key)).blanks (isBlank_of_lineBreak layout depth)

mutual

/-- A written value is laid out. -/
theorem Value.laid (depth : Nat) : ∀ v : Value, Laid v.tokens (v.write layout depth)
  | .null | .bool true | .bool false => laid_token rfl
  | .number n => laid_token (spelled_writeNumber n)
  | .text s => laid_token (spelled_writeText s)
  | .array .nil => (laid_token (t := .rightBracket) rfl).mark .leftBracket rfl
  | .array (.cons v vs) => by
      have hclosed := (Elements.laid (depth + 1) (.cons v vs)).append
        (laid_close layout depth (t := .rightBracket) rfl)
      rw [← List.append_assoc] at hclosed
      exact hclosed.mark .leftBracket rfl
  | .object .nil => (laid_token (t := .rightBrace) rfl).mark .leftBrace rfl
  | .object (.cons k v ms) => by
      have hclosed := (Members.laid (depth + 1) (.cons k v ms)).append
        (laid_close layout depth (t := .rightBrace) rfl)
      rw [← List.append_assoc] at hclosed
      exact hclosed.mark .leftBrace rfl

theorem Elements.laid (depth : Nat) :
    ∀ vs : Elements, Laid (vs.tokens true) (vs.write layout depth)
  | .nil => .nil (List.forall_mem_nil _)
  | .cons v .nil => by
      have hv := (Value.laid depth v).blanks (isBlank_of_lineBreak layout depth)
      rwa [← List.append_nil v.tokens] at hv
  | .cons v (.cons w ws) => by
      have hv := (Value.laid depth v).blanks (isBlank_of_lineBreak layout depth)
      have hothers := (Elements.laid depth (.cons w ws)).mark .comma rfl
      exact hv.append hothers

theorem Members.laid (depth : Nat) :
    ∀ ms : Members, Laid (ms.tokens true) (ms.write layout depth)
  | .nil => .nil (List.forall_mem_nil _)
  | .cons k v .nil => by
      have hmember := laid_member layout depth k (Value.laid depth v)
      rw [← List.append_assoc, ← List.append_assoc, ← List.append_nil v.tokens] at hmember
      exact hmember
  | .cons k v (.cons l w ms) => by
      have hmember := laid_member layout depth k (Value.laid depth v)
      have hothers := (Members.laid depth (.cons l w ms)).mark .comma rfl
      rw [← List.append_assoc, ← List.append_assoc] at hmember
      exact hmember.append hothers

end

/-- However a value is written, its tokens are laid out. -/
theorem laid_render (v : Value) : Laid v.tokens (v.render layout).toList := by
  rw [Value.render, String.toList_ofList]
  exact Value.laid layout 0 v

/-- A written value is cut into its tokens. -/
theorem scan_render (v : Value) : scan (v.render layout) = v.tokens := by
  have hlaid := laid_render layout v
  rw [← Document.tokens_ofValue] at hlaid ⊢
  exact scan_of_laid hlaid

end Layouts

end RadioFrame.Json
