import Mathlib.Data.List.Forall2
import RadioFrame.Proofs.Outcome
import RadioFrame.Text.Hex

/-!
Hexadecimal digits read back.

* `Hex.digitValue?_eq_some_iff`: a character has a value just when it is a digit of that value.
* `Hex.decode_groups`: the digits of some bytes, in either case, spell those bytes.
* `Hex.decode_eq_ok_iff`: no other text does. The places of a text are those of its bytes, and a
  character outside ASCII has none that could be taken for a digit (`Hex.utf8_of_lt`).
* `Hex.map_toLower_eq_encode_iff`: the texts that spell some bytes are those whose lower case is
  written for them.
-/

namespace RadioFrame

/-! ### Bytes as digits -/

namespace Hex

/-- A digit of a given value, in either case. -/
def IsDigit (n : Nat) (c : Char) : Prop := c = digit n ∨ c = (digit n).toUpper

instance (n : Nat) (c : Char) : Decidable (IsDigit n c) := inferInstanceAs (Decidable (_ ∨ _))

/-- The two digits of a byte, each in either case. -/
def Spells (b : UInt8) (group : List Char) : Prop :=
  ∃ high low, group = [high, low] ∧ IsDigit (b.toNat / 16) high ∧ IsDigit (b.toNat % 16) low

lemma spells_encodeByte (b : UInt8) : Spells b (encodeByte b) := ⟨_, _, rfl, .inl rfl, .inl rfl⟩

lemma forall₂_encodeByte : ∀ bytes : Bytes, List.Forall₂ Spells bytes (bytes.map encodeByte)
  | [] => .nil
  | b :: bytes => .cons (spells_encodeByte b) (forall₂_encodeByte bytes)

lemma encode_cons (b : UInt8) (bytes : Bytes) :
    encode (b :: bytes) = encodeByte b ++ encode bytes :=
  List.flatMap_cons

lemma halves_lt (b : UInt8) : b.toNat / 16 < 16 ∧ b.toNat % 16 < 16 := by
  have := b.toNat_lt
  omega

lemma ofNat_halves (b : UInt8) : UInt8.ofNat (16 * (b.toNat / 16) + b.toNat % 16) = b := by
  rw [Nat.div_add_mod, UInt8.ofNat_toNat]

section Digits

variable {n : Nat} {c : Char}

/-- What can be seen of all digits is true of each. -/
lemma IsDigit.of_all {P : Nat → Char → Prop} (hc : IsDigit n c) (h : n < 16)
    (hall : ∀ n < 16, P n (digit n) ∧ P n (digit n).toUpper) : P n c := by
  rcases hc with rfl | rfl
  · exact (hall n h).1
  · exact (hall n h).2

lemma IsDigit.value (hc : IsDigit n c) (h : n < 16) : digitValue? c = some n :=
  hc.of_all (P := fun n c => digitValue? c = some n) h (by decide)

/-- Only digits have a value. -/
lemma digitValue?_eq_some_iff : digitValue? c = some n ↔ n < 16 ∧ IsDigit n c := by
  refine ⟨fun h => ?_, fun ⟨hn, hc⟩ => hc.value hn⟩
  have hupper : ∀ n < 16, 10 ≤ n → (digit n).toUpper = Char.ofNat (n + 55) := by decide
  rw [digitValue?] at h
  split at h
  · next hrange =>
      have hlow : 48 ≤ c.toNat := hrange.1
      have hhigh : c.toNat ≤ 57 := hrange.2
      cases h
      refine ⟨by omega, .inl ?_⟩
      rw [digit, if_pos (by omega), Nat.sub_add_cancel hlow, Char.ofNat_toNat]
  · split at h
    · next hrange =>
        have hlow : 97 ≤ c.toNat := hrange.1
        have hhigh : c.toNat ≤ 102 := hrange.2
        cases h
        refine ⟨by omega, .inl ?_⟩
        rw [digit, if_neg (by omega), Nat.sub_add_cancel (by omega), Char.ofNat_toNat]
    · split at h
      · next hrange =>
          have hlow : 65 ≤ c.toNat := hrange.1
          have hhigh : c.toNat ≤ 70 := hrange.2
          cases h
          refine ⟨by omega, .inr ?_⟩
          rw [hupper _ (by omega) (by omega), Nat.sub_add_cancel (by omega), Char.ofNat_toNat]
      · cases h

lemma IsDigit.utf8 (hc : IsDigit n c) (h : n < 16) :
    String.utf8EncodeChar c = [UInt8.ofNat c.toNat] :=
  hc.of_all (P := fun _ c => String.utf8EncodeChar c = [UInt8.ofNat c.toNat]) h (by decide)

lemma IsDigit.digitAt (hc : IsDigit n c) (h : n < 16) (position : Nat) :
    digitAt position (UInt8.ofNat c.toNat) = .ok n := by
  have hchar : Char.ofNat (UInt8.ofNat c.toNat).toNat = c :=
    hc.of_all (P := fun _ c => Char.ofNat (UInt8.ofNat c.toNat).toNat = c) h (by decide)
  rw [Hex.digitAt, hchar, hc.value h]

/-- No digit is a separator or a sign. -/
lemma IsDigit.ne (hc : IsDigit n c) (h : n < 16) : c ≠ ':' ∧ c ≠ '+' :=
  hc.of_all (P := fun _ c => c ≠ ':' ∧ c ≠ '+') h (by decide)

end Digits

/-! ### Groups of digits -/

section Groups

variable {bytes : Bytes} {groups : List (List Char)}

/-- Digits and nothing else are in the groups of some bytes. -/
lemma isDigit_of_mem_groups (h : List.Forall₂ Spells bytes groups) :
    ∀ c ∈ groups.flatten, ∃ n < 16, IsDigit n c := by
  induction h with
  | nil => exact nofun
  | @cons b group bytes groups hgroup _ ih =>
      obtain ⟨high, low, rfl, hhigh, hlow⟩ := hgroup
      obtain ⟨hlt, hlt'⟩ := halves_lt b
      exact List.forall_mem_cons.mpr ⟨⟨_, hlt, hhigh⟩,
        List.forall_mem_cons.mpr ⟨⟨_, hlt', hlow⟩, ih⟩⟩

lemma length_groups (h : List.Forall₂ Spells bytes groups) :
    groups.flatten.length = 2 * bytes.length := by
  induction h with
  | nil => rfl
  | cons hgroup _ ih =>
      obtain ⟨high, low, rfl, -, -⟩ := hgroup
      simp only [List.flatten_cons, List.length_append, List.length_cons, List.length_nil, ih]
      omega

lemma length_encode (bytes : Bytes) : (encode bytes).length = 2 * bytes.length :=
  length_groups (forall₂_encodeByte bytes)

/-- Each digit has one place. -/
lemma length_utf8_groups (h : List.Forall₂ Spells bytes groups) :
    (groups.flatten.flatMap String.utf8EncodeChar).length = 2 * bytes.length := by
  have hplaces : groups.flatten.flatMap String.utf8EncodeChar =
      groups.flatten.map fun c => UInt8.ofNat c.toNat := by
    rw [List.map_eq_flatMap]
    refine List.flatMap_congr fun c hc => ?_
    obtain ⟨n, hn, hdigit⟩ := isDigit_of_mem_groups h c hc
    exact hdigit.utf8 hn
  rw [hplaces, List.length_map, length_groups h]

lemma decodeFrom_groups (h : List.Forall₂ Spells bytes groups) (position : Nat) :
    decodeFrom position (groups.flatten.flatMap String.utf8EncodeChar) = .ok bytes := by
  induction h generalizing position with
  | nil => rfl
  | @cons b group bytes groups hgroup _ ih =>
      obtain ⟨high, low, rfl, hhigh, hlow⟩ := hgroup
      obtain ⟨hlt, hlt'⟩ := halves_lt b
      simp only [List.flatten_cons, List.cons_append, List.nil_append, List.flatMap_cons,
        hhigh.utf8 hlt, hlow.utf8 hlt', decodeFrom, hhigh.digitAt hlt, hlow.digitAt hlt', ih,
        ok_bind, ofNat_halves]

/-- Digits in either case spell their bytes. -/
lemma decode_groups (h : List.Forall₂ Spells bytes groups) : decode groups.flatten = .ok bytes := by
  rw [decode, length_utf8_groups h, if_neg (by omega), decodeFrom_groups h]

/-- The written digits of some bytes spell those bytes. -/
lemma decode_encode_eq (bytes : Bytes) : decode (encode bytes) = .ok bytes :=
  decode_groups (forall₂_encodeByte bytes)

end Groups

/-! ### Digits and nothing else -/

/-- Two digits are the group of the byte that they are the halves of. -/
lemma spells_ofNat {m n : Nat} {high low : Char} (hm : m < 16) (hn : n < 16)
    (hhigh : IsDigit m high)
    (hlow : IsDigit n low) : Spells (UInt8.ofNat (16 * m + n)) [high, low] := by
  have hvalue : (UInt8.ofNat (16 * m + n)).toNat = 16 * m + n := by
    rw [UInt8.toNat_ofNat']
    omega
  have hdiv : (16 * m + n) / 16 = m := by omega
  have hmod : (16 * m + n) % 16 = n := by omega
  refine ⟨high, low, rfl, ?_, ?_⟩
  · rwa [hvalue, hdiv]
  · rwa [hvalue, hmod]

lemma isDigit_of_digitAt {position n : Nat} {b : UInt8} (h : digitAt position b = .ok n) :
    n < 16 ∧ IsDigit n (Char.ofNat b.toNat) := by
  rw [digitAt] at h
  split at h
  · next hvalue =>
      cases h
      exact digitValue?_eq_some_iff.mp hvalue
  · cases h

/-- The places that are read as some bytes are those of their digits. -/
lemma groups_of_decodeFrom {position : Nat} {places bytes : Bytes}
    (h : decodeFrom position places = .ok bytes) :
    ∃ groups, places.map (fun b => Char.ofNat b.toNat) = groups.flatten ∧
      List.Forall₂ Spells bytes groups := by
  fun_induction decodeFrom position places generalizing bytes with
  | case1 =>
      cases h
      exact ⟨[], rfl, .nil⟩
  | case2 => cases h
  | case3 position a b rest ih =>
      obtain ⟨m, hm, h⟩ := bind_eq_ok.mp h
      obtain ⟨n, hn, h⟩ := bind_eq_ok.mp h
      obtain ⟨bytes, hbytes, h⟩ := bind_eq_ok.mp h
      cases h
      obtain ⟨hmlt, hhigh⟩ := isDigit_of_digitAt hm
      obtain ⟨hnlt, hlow⟩ := isDigit_of_digitAt hn
      obtain ⟨groups, hrest, hgroups⟩ := ih hbytes
      exact ⟨_ :: groups, by rw [List.flatten_cons, ← hrest]; rfl,
        .cons (spells_ofNat hmlt hnlt hhigh hlow) hgroups⟩

/-- A character whose places are all below 128 has a single one. -/
lemma utf8_of_lt {c : Char} (h : ∀ b ∈ String.utf8EncodeChar c, b.toNat < 128) :
    String.utf8EncodeChar c = [UInt8.ofNat c.toNat] ∧ c.toNat < 128 := by
  have hlead : ∀ n < 64, ¬(UInt8.ofNat (n + 192)).toNat < 128 := by
    intro n hn
    rw [UInt8.toNat_ofNat']
    omega
  rw [String.utf8EncodeChar] at h ⊢
  -- The first of two, three or four places is 192, 224 or 240 at least.
  split at h
  · next hle =>
      rw [if_pos hle]
      exact ⟨rfl, Nat.lt_succ_of_le hle⟩
  · split at h
    · exact absurd (List.forall_mem_cons.mp h).1 (hlead _ (by omega))
    · split at h
      · exact absurd (List.forall_mem_cons.mp h).1 (hlead (_ + 32) (by omega))
      · exact absurd (List.forall_mem_cons.mp h).1 (hlead (_ + 48) (by omega))

lemma map_utf8 {text : List Char}
    (h : ∀ b ∈ text.flatMap String.utf8EncodeChar, b.toNat < 128) :
    (text.flatMap String.utf8EncodeChar).map (fun b => Char.ofNat b.toNat) = text := by
  induction text with
  | nil => rfl
  | cons c cs ih =>
      rw [List.flatMap_cons, List.forall_mem_append] at h
      obtain ⟨hplace, hlt⟩ := utf8_of_lt h.1
      have hvalue : (UInt8.ofNat c.toNat).toNat = c.toNat := by
        rw [UInt8.toNat_ofNat']
        omega
      rw [List.flatMap_cons, List.map_append, ih h.2, hplace, List.map_singleton, hvalue,
        Char.ofNat_toNat, List.singleton_append]

/-- The texts that spell some bytes are those of their digits, each in either case. -/
lemma decode_eq_ok_iff {text : List Char} {bytes : Bytes} :
    decode text = .ok bytes ↔
      ∃ groups, text = groups.flatten ∧ List.Forall₂ Spells bytes groups := by
  constructor
  · intro h
    rw [decode] at h
    split at h
    · cases h
    · obtain ⟨groups, hplaces, hgroups⟩ := groups_of_decodeFrom h
      have hlow : ∀ b ∈ text.flatMap String.utf8EncodeChar, b.toNat < 128 := by
        intro b hb
        have hvalue : (Char.ofNat b.toNat).toNat = b.toNat := by
          rw [Char.ofNat, dif_pos (.inl (Nat.lt_trans b.toNat_lt (by decide)))]
          rfl
        obtain ⟨n, hn, hdigit⟩ := isDigit_of_mem_groups hgroups (Char.ofNat b.toNat)
          (hplaces ▸ List.mem_map_of_mem hb)
        rw [← hvalue]
        exact hdigit.of_all (P := fun _ c => c.toNat < 128) hn (by decide)
      exact ⟨groups, (map_utf8 hlow).symm.trans hplaces, hgroups⟩
  · rintro ⟨groups, rfl, hgroups⟩
    exact decode_groups hgroups

/-! ### Lower case -/

/-- A digit is told from its lower case. -/
lemma isDigit_iff_toLower {n : Nat} {c : Char} (h : n < 16) :
    IsDigit n c ↔ c.toLower = digit n := by
  constructor
  · exact fun hc => hc.of_all (P := fun n c => c.toLower = digit n) h (by decide)
  · intro hlower
    by_cases hrange : c.val ≥ 'A'.val ∧ c.val ≤ 'Z'.val
    · have hupper : ∀ n < 16, 65 ≤ (digit n).toNat - 32 →
          Char.ofNat ((digit n).toNat - 32) = (digit n).toUpper := by decide
      have hlow : 65 ≤ c.toNat := hrange.1
      have hhigh : c.toNat ≤ 90 := hrange.2
      have hshift : c.toLower.toNat = (c.toNat + 32) % 2 ^ 32 :=
        congrArg Char.toNat (dif_pos hrange)
      have hback : c.toNat = (digit n).toNat - 32 := by
        rw [hlower] at hshift
        omega
      rw [IsDigit, ← hupper n h (hback ▸ hlow), ← hback, Char.ofNat_toNat]
      exact .inr rfl
    · have hsame : c.toLower = c := dif_neg hrange
      exact .inl (hsame.symm.trans hlower)

/-- The groups of some bytes are the texts whose lower case is written for them. -/
lemma map_toLower_eq_encode_iff {text : List Char} {bytes : Bytes} :
    text.map Char.toLower = encode bytes ↔
      ∃ groups, text = groups.flatten ∧ List.Forall₂ Spells bytes groups := by
  constructor
  · intro h
    induction bytes generalizing text with
    | nil => exact ⟨[], List.map_eq_nil_iff.mp h, .nil⟩
    | cons b bytes ih =>
        obtain ⟨hlt, hlt'⟩ := halves_lt b
        obtain ⟨high, rest, rfl, hhigh, h⟩ := List.map_eq_cons_iff.mp h
        obtain ⟨low, rest, rfl, hlow, h⟩ := List.map_eq_cons_iff.mp h
        obtain ⟨groups, rfl, hgroups⟩ := ih h
        exact ⟨[high, low] :: groups, rfl, .cons ⟨high, low, rfl,
          (isDigit_iff_toLower hlt).mpr hhigh,
          (isDigit_iff_toLower hlt').mpr hlow⟩ hgroups⟩
  · rintro ⟨groups, rfl, hgroups⟩
    induction hgroups with
    | nil => rfl
    | @cons b group bytes groups hgroup _ ih =>
        obtain ⟨high, low, rfl, hhigh, hlow⟩ := hgroup
        obtain ⟨hlt, hlt'⟩ := halves_lt b
        rw [List.flatten_cons, List.map_append, ih, encode_cons, encodeByte,
          ← (isDigit_iff_toLower hlt).mp hhigh, ← (isDigit_iff_toLower hlt').mp hlow]
        rfl

end Hex

end RadioFrame
