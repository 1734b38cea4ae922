import RadioFrame.Inspect.Input
import RadioFrame.Proofs.Text.Hex

/-!
Typed frames as spellings of byte strings.

Bytes are typed as two digits each, high one first, in either case; the digits may stand behind the
mark `0x`, and blanks may stand anywhere, between the characters of the mark and between the digits
of a byte too (`Types`). Blanks are what is dropped first (`Spaced.filter_eq`, `spaced_filter`),
then the mark, which no digits begin with (`dropMark_append`). So the texts that are read as some
bytes are those in which the bytes are typed (`parseHex_eq_ok_iff`), and written digits are among
them (`parseHex_encode`).

`parseHex_typed` adds what is said of all other texts.
-/

namespace RadioFrame.Inspect

open Hex (Spells IsDigit)

/-! ### Blanks -/

/-- Text with blanks put in, anywhere and any number of them. -/
inductive Spaced : List Char → List Char → Prop
  /-- Nothing. -/
  | nil : Spaced [] []
  /-- A character of the text. -/
  | keep (c : Char) {cs text : List Char} (h : Spaced cs text) : Spaced (c :: cs) (c :: text)
  /-- A blank. -/
  | blank {c : Char} {cs text : List Char} (hc : isBlank c) (h : Spaced cs text) :
      Spaced cs (c :: text)

lemma Spaced.filter_eq {cs text : List Char} (h : Spaced cs text) :
    text.filter (fun c => !isBlank c) = cs.filter fun c => !isBlank c := by
  induction h with
  | nil => rfl
  | keep c _ ih => rw [List.filter_cons, List.filter_cons, ih]
  | blank hc _ ih => rw [List.filter_cons_of_neg (by rw [hc]; decide), ih]

/-- A text has its blanks put into what else it has. -/
lemma spaced_filter (text : List Char) : Spaced (text.filter fun c => !isBlank c) text := by
  induction text with
  | nil => exact .nil
  | cons c text ih =>
      rw [List.filter_cons]
      split
      · exact .keep c ih
      · next hblank => exact .blank (by simpa using hblank) ih

/-! ### Digits behind a mark -/

/-- No digit is a blank, and none is a letter of the mark. -/
lemma isBlank_digit {n : Nat} {c : Char} (h : n < 16) (hc : IsDigit n c) :
    isBlank c = false ∧ c ≠ 'x' ∧ c ≠ 'X' :=
  hc.of_all (P := fun _ c => isBlank c = false ∧ c ≠ 'x' ∧ c ≠ 'X') h (by decide)

/-- What may stand in front of the digits: nothing, or the mark. -/
inductive Opens : List Char → Prop
  /-- Nothing. -/
  | nothing : Opens []
  /-- The mark. -/
  | mark : Opens ['0', 'x']

lemma exists_opens (cs : List Char) : ∃ front, Opens front ∧ cs = front ++ dropMark cs := by
  unfold dropMark
  split
  · exact ⟨_, .mark, rfl⟩
  · exact ⟨_, .nothing, rfl⟩

section Groups

variable {bytes : Bytes} {groups : List (List Char)} {front : List Char}

/-- Digits do not begin with the mark. -/
lemma dropMark_append (hfront : Opens front) (h : List.Forall₂ Spells bytes groups) :
    dropMark (front ++ groups.flatten) = groups.flatten := by
  cases hfront with
  | mark => rfl
  | nothing =>
      cases h with
      | nil => rfl
      | @cons b group bytes groups hgroup _ =>
          obtain ⟨high, low, rfl, -, hlow⟩ := hgroup
          have hx : low ≠ 'x' := (isBlank_digit (Hex.halves_lt b).2 hlow).2.1
          rw [List.nil_append, List.flatten_cons]
          unfold dropMark
          split
          · next heq =>
              injection heq with _ htail
              injection htail with hlow _
              exact absurd hlow hx
          · rfl

/-- There is no blank among the digits or in the mark. -/
lemma filter_append (hfront : Opens front) (h : List.Forall₂ Spells bytes groups) :
    (front ++ groups.flatten).filter (fun c => !isBlank c) = front ++ groups.flatten := by
  have hdigits : groups.flatten.filter (fun c => !isBlank c) = groups.flatten := by
    rw [List.filter_eq_self]
    intro c hc
    obtain ⟨n, hn, hdigit⟩ := Hex.isDigit_of_mem_groups h c hc
    rw [(isBlank_digit hn hdigit).1]
    rfl
  rw [List.filter_append, hdigits]
  cases hfront with
  | nothing => rfl
  | mark => rfl

end Groups

/-! ### Typed bytes -/

/-- A text in which some bytes are typed: two digits for each of them, in either case, behind the
mark or not, with blanks put in. -/
def Types (bytes : Bytes) (text : List Char) : Prop :=
  ∃ front groups, Opens front ∧ List.Forall₂ Spells bytes groups ∧
    Spaced (front ++ groups.flatten) text

/-- Without blanks and mark nothing but the digits is left. -/
lemma types_iff {bytes : Bytes} {text : List Char} :
    Types bytes text ↔
      ∃ groups, digitsOf text = groups.flatten ∧ List.Forall₂ Spells bytes groups := by
  constructor
  · rintro ⟨front, groups, hfront, hgroups, htext⟩
    refine ⟨groups, ?_, hgroups⟩
    rw [digitsOf, htext.filter_eq, filter_append hfront hgroups, dropMark_append hfront hgroups]
  · rintro ⟨groups, hdigits, hgroups⟩
    obtain ⟨front, hfront, hrest⟩ := exists_opens (text.filter fun c => !isBlank c)
    refine ⟨front, groups, hfront, hgroups, ?_⟩
    rw [← hdigits, digitsOf, ← hrest]
    exact spaced_filter text

/-- The texts that are read as some bytes are those in which the bytes are typed. -/
lemma parseHex_eq_ok_iff {input : String} {bytes : Bytes} :
    parseHex input = .ok bytes ↔ Types bytes input.toList := by
  rw [parseHex, mapError_eq_ok, Hex.decode_eq_ok_iff, types_iff]

/-- The written digits of some bytes are typed for those bytes. -/
lemma parseHex_encode (bytes : Bytes) :
    parseHex (String.ofList (Hex.encode bytes)) = .ok bytes := by
  have hgroups := Hex.forall₂_encodeByte bytes
  refine parseHex_eq_ok_iff.mpr ⟨[], _, .nothing, hgroups, ?_⟩
  rw [String.toList_ofList, ← filter_append .nothing hgroups]
  exact spaced_filter _

/-! ### Other texts -/

/-- A text that is told to be no frame. -/
def Refused (input : String) : Prop := ∃ fault, parseHex input = .error ⟨input, fault⟩

/-- Every text is read as some bytes or refused. -/
lemma refused_iff {input : String} : Refused input ↔ ∀ bytes, ¬Types bytes input.toList := by
  simp only [← parseHex_eq_ok_iff, Refused, parseHex, mapError_eq_ok]
  cases Hex.decode (digitsOf input.toList) with
  | error fault => exact ⟨fun _ => nofun, fun _ => ⟨fault, rfl⟩⟩
  | ok bytes => exact ⟨nofun, fun h => absurd rfl (h bytes)⟩

/-- A text is refused for any of its characters that is no digit, blanks and the mark apart. -/
lemma refused_of_mem {input : String} {c : Char} (hc : c ∈ digitsOf input.toList)
    (hdigit : ∀ n < 16, ¬IsDigit n c) : Refused input := by
  refine refused_iff.mpr fun bytes htypes => ?_
  obtain ⟨groups, hdigits, hgroups⟩ := types_iff.mp htypes
  obtain ⟨n, hn, hcn⟩ := Hex.isDigit_of_mem_groups hgroups c (hdigits ▸ hc)
  exact hdigit n hn hcn

/-- A text is refused for a digit without a partner. -/
lemma refused_of_odd {input : String} (hodd : (digitsOf input.toList).length % 2 = 1) :
    Refused input := by
  refine refused_iff.mpr fun bytes htypes => ?_
  obtain ⟨groups, hdigits, hgroups⟩ := types_iff.mp htypes
  rw [hdigits, Hex.length_groups hgroups] at hodd
  omega

/-- Typed frames are read exactly. A text is read as some bytes just when it has two digits for each
of them, in either case, behind the mark or not, and otherwise nothing but blanks, which may stand
anywhere; so without its blanks and without a mark in front it is what is written for the bytes, but
for the case of letters. Every other text is refused, among them those with a digit that has no
partner, with a character that is no digit, with the mark in upper case and with a second mark. -/
theorem parseHex_typed (input : String) :
    (∀ bytes, parseHex input = .ok bytes ↔ Types bytes input.toList) ∧
      (∀ bytes, parseHex input = .ok bytes ↔
        (digitsOf input.toList).map Char.toLower = Hex.encode bytes) ∧
      (Refused input ↔ ∀ bytes, ¬Types bytes input.toList) ∧
      ((digitsOf input.toList).length % 2 = 1 → Refused input) ∧
      (∀ c ∈ digitsOf input.toList, (∀ n < 16, ¬IsDigit n c) → Refused input) ∧
      (∀ rest, input.toList.filter (fun c => !isBlank c) = '0' :: 'X' :: rest → Refused input) ∧
      ∀ rest, input.toList.filter (fun c => !isBlank c) = '0' :: 'x' :: '0' :: 'x' :: rest →
        Refused input := by
  have hlower : ∀ bytes, parseHex input = .ok bytes ↔
      (digitsOf input.toList).map Char.toLower = Hex.encode bytes := by
    intro bytes
    rw [parseHex_eq_ok_iff, types_iff, Hex.map_toLower_eq_encode_iff]
  -- Only the very first mark is dropped, and what then is left has its letter.
  have hletter : ∀ c rest, digitsOf input.toList = '0' :: c :: rest →
      (∀ n < 16, ¬IsDigit n c) → Refused input := by
    intro c rest hdigits
    refine refused_of_mem ?_
    rw [hdigits]
    exact List.mem_cons_of_mem _ List.mem_cons_self
  refine ⟨fun bytes => parseHex_eq_ok_iff, hlower, refused_iff, refused_of_odd,
    fun c => refused_of_mem, fun rest hrest => ?_, fun rest hrest => ?_⟩
  · exact hletter 'X' rest (by rw [digitsOf, hrest]; rfl) fun n hn hdigit =>
      (isBlank_digit hn hdigit).2.2 rfl
  · exact hletter 'x' rest (by rw [digitsOf, hrest]; rfl) fun n hn hdigit =>
      (isBlank_digit hn hdigit).2.1 rfl

/-- Blanks of all kinds are put into the mark and between the digits, which are in both cases. With
the mark in upper case, with a second mark, with a digit too few or with another letter a text is
refused. -/
theorem parseHex_typed_scattered :
    parseHex " 0\u3000x1A\n0 3\u00a09a 01 0\t0" = .ok [0x1a, 0x03, 0x9a, 0x01, 0x00] ∧
      Refused "0X1a 03" ∧ Refused "0x 0x1a" ∧ Refused "0x1a0" ∧ Refused "0x1g" := by
  obtain ⟨-, -, -, -, -, hupper, -⟩ := parseHex_typed "0X1a 03"
  obtain ⟨-, -, -, -, -, -, hsecond⟩ := parseHex_typed "0x 0x1a"
  obtain ⟨-, -, -, hodd, -⟩ := parseHex_typed "0x1a0"
  obtain ⟨-, -, -, -, hother, -⟩ := parseHex_typed "0x1g"
  exact ⟨((parseHex_typed _).2.1 _).mpr (by decide), hupper _ rfl, hsecond _ rfl, hodd (by decide),
    hother 'g' (by decide) (by decide)⟩

end RadioFrame.Inspect
