import RadioFrame.Proofs.Text.Hex
import RadioFrame.Schema.Text

/-!
The text of device addresses.

Text shows an address when it is six groups with colons between, and each group shows an octet
(`BdAddress.Shows`). A group is two digits in either case, or a plus sign and one digit: a number is
read from its two places, and a number may have its sign in front (`BdAddress.ShowsOctet`). So `+a`
shows the same octet as `0a`.

* `BdAddress.octet?_eq_some_iff`, `BdAddress.ofText?_eq_some_iff`: these groups and these texts are
  the ones that are read.
* `BdAddress.toText_of_shows`: the shown form of the address that a text shows is the text with its
  letters in lower case, and a zero for each sign.
* `BdAddress.ofString_exact` puts the two together, with what is said of all other text.
-/

namespace RadioFrame

open Hex (Spells IsDigit digitValue?_eq_some_iff)

/-- Text is cut as any list is. -/
lemma Text.splitOn_eq (separator : Char) (text : List Char) :
    splitOn separator text = List.splitOn separator text := by
  induction text with
  | nil => rfl
  | cons c cs ih =>
      rw [splitOn, ih, List.splitOn, List.splitOn, List.splitOnP_cons_eq_if_modifyHead]
      by_cases hc : c = separator
      · rw [if_pos hc, if_pos (beq_iff_eq.mpr hc)]
      · rw [if_neg hc, if_neg (mt beq_iff_eq.mp hc)]
        cases hparts : List.splitOnP (· == separator) cs with
        | nil => exact absurd hparts (List.splitOnP_ne_nil _ _)
        | cons p ps => rfl

namespace BdAddress

/-! ### Groups -/

/-- A group that shows an octet: its two digits, each in either case, or a plus sign and one digit.
-/
inductive ShowsOctet (b : UInt8) : List Char → Prop
  /-- Two digits. -/
  | digits {group : List Char} (h : Spells b group) : ShowsOctet b group
  /-- A sign and one digit. -/
  | signed {low : Char} (hb : b.toNat < 16) (h : IsDigit b.toNat low) : ShowsOctet b ['+', low]

/-- The groups that show an octet are the ones that are read as that octet. -/
lemma octet?_eq_some_iff {group : List Char} {b : UInt8} :
    octet? group = some b ↔ ShowsOctet b group := by
  constructor
  · intro h
    unfold octet? at h
    split at h
    · next low =>
        obtain ⟨n, hn, rfl⟩ := Option.map_eq_some_iff.mp h
        obtain ⟨hlt, hlow⟩ := digitValue?_eq_some_iff.mp hn
        have hvalue : (UInt8.ofNat n).toNat = n := by
          rw [UInt8.toNat_ofNat']
          omega
        exact .signed (hvalue.symm ▸ hlt) (hvalue.symm ▸ hlow)
    · next high low _ =>
        obtain ⟨m, hm, h⟩ := Option.bind_eq_some_iff.mp h
        obtain ⟨n, hn, h⟩ := Option.bind_eq_some_iff.mp h
        obtain ⟨hmlt, hhigh⟩ := digitValue?_eq_some_iff.mp hm
        obtain ⟨hnlt, hlow⟩ := digitValue?_eq_some_iff.mp hn
        cases h
        exact .digits (Hex.spells_ofNat hmlt hnlt hhigh hlow)
    · cases h
  · intro h
    cases h with
    | signed hb hlow =>
        rw [octet?, hlow.value hb, Option.map_some, UInt8.ofNat_toNat]
    | digits hgroup =>
        obtain ⟨high, low, rfl, hhigh, hlow⟩ := hgroup
        obtain ⟨hlt, hlt'⟩ := Hex.halves_lt b
        rw [octet?]
        · rw [hhigh.value hlt, hlow.value hlt']
          exact congrArg some (Hex.ofNat_halves b)
        · exact (hhigh.ne hlt).2

/-- No group has a separator in it. -/
lemma ShowsOctet.colon_notMem {b : UInt8} {group : List Char} (h : ShowsOctet b group) :
    ':' ∉ group := by
  cases h with
  | signed hb hlow => simp [(hlow.ne hb).1.symm]
  | digits hgroup =>
      obtain ⟨high, low, rfl, hhigh, hlow⟩ := hgroup
      obtain ⟨hlt, hlt'⟩ := Hex.halves_lt b
      simp [(hhigh.ne hlt).1.symm, (hlow.ne hlt').1.symm]

/-- A group is two digits if it has no sign. -/
lemma ShowsOctet.spells_iff {b : UInt8} {group : List Char} (h : ShowsOctet b group) :
    Spells b group ↔ '+' ∉ group := by
  constructor
  · rintro ⟨high, low, rfl, hhigh, hlow⟩
    obtain ⟨hlt, hlt'⟩ := Hex.halves_lt b
    simp [(hhigh.ne hlt).2.symm, (hlow.ne hlt').2.symm]
  · intro hsign
    cases h with
    | digits hgroup => exact hgroup
    | signed => exact absurd List.mem_cons_self hsign

/-- A character as the shown form has it: letters in lower case, and a zero for a sign. -/
def shownChar (c : Char) : Char := if c = '+' then '0' else c.toLower

/-- The shown form of an octet is any of its groups with its characters as they are shown. -/
lemma ShowsOctet.map_shownChar {b : UInt8} {group : List Char} (h : ShowsOctet b group) :
    group.map shownChar = Hex.encodeByte b := by
  have hdigit : ∀ {n : Nat} {c : Char}, IsDigit n c → n < 16 → shownChar c = Hex.digit n :=
    fun hc hn => hc.of_all (P := fun n c => shownChar c = Hex.digit n) hn (by decide)
  cases h with
  | signed hb hlow =>
      have hzero : b.toNat / 16 = 0 := by omega
      have hsame : b.toNat % 16 = b.toNat := by omega
      rw [Hex.encodeByte, hzero, hsame, List.map_cons, List.map_singleton, hdigit hlow hb]
      rfl
  | digits hgroup =>
      obtain ⟨high, low, rfl, hhigh, hlow⟩ := hgroup
      obtain ⟨hlt, hlt'⟩ := Hex.halves_lt b
      rw [Hex.encodeByte, List.map_cons, List.map_singleton, hdigit hhigh hlt, hdigit hlow hlt']

/-! ### Groups in a row -/

section Groups

variable {bytes : Bytes} {groups : List (List Char)}

lemma mapM_octet?_eq_some_iff :
    groups.mapM octet? = some bytes ↔ List.Forall₂ ShowsOctet bytes groups := by
  induction groups generalizing bytes with
  | nil =>
      rw [List.mapM_nil, List.forall₂_nil_right_iff]
      exact ⟨fun h => (Option.some.inj h).symm, fun h => congrArg some h.symm⟩
  | cons group groups ih =>
      rw [List.mapM_cons, List.forall₂_cons_right_iff]
      constructor
      · intro h
        obtain ⟨b, hb, h⟩ := Option.bind_eq_some_iff.mp h
        obtain ⟨bs, hbs, h⟩ := Option.bind_eq_some_iff.mp h
        cases h
        exact ⟨b, bs, octet?_eq_some_iff.mp hb, ih.mp hbs, rfl⟩
      · rintro ⟨b, bs, hb, hbs, rfl⟩
        rw [octet?_eq_some_iff.mpr hb, ih.mpr hbs]
        rfl

lemma colon_notMem_groups (h : List.Forall₂ ShowsOctet bytes groups) :
    ∀ group ∈ groups, ':' ∉ group := by
  induction h with
  | nil => exact nofun
  | cons hgroup _ ih => exact List.forall_mem_cons.mpr ⟨hgroup.colon_notMem, ih⟩

/-- Groups with colons between show an address if there are six of them. -/
lemma ofText?_groups (h : List.Forall₂ ShowsOctet bytes groups) :
    ofText? ([':'].intercalate groups) = (Block.ofBytes? 6 bytes).map fun octets => ⟨octets⟩ := by
  cases h with
  | nil => rfl
  | @cons b group bytes groups hgroup hgroups =>
      have hall := List.Forall₂.cons hgroup hgroups
      rw [ofText?, Text.splitOn_eq,
        List.splitOn_intercalate ':' (colon_notMem_groups hall) (List.cons_ne_nil _ _),
        mapM_octet?_eq_some_iff.mpr hall, Option.bind_eq_bind, Option.bind_some]
      cases Block.ofBytes? 6 _ with
      | none | some octets => rfl

lemma spells_groups_iff (h : List.Forall₂ ShowsOctet bytes groups) :
    List.Forall₂ Spells bytes groups ↔ '+' ∉ [':'].intercalate groups := by
  induction h with
  | nil => exact ⟨fun _ => List.not_mem_nil, fun _ => .nil⟩
  | cons hgroup hgroups ih =>
      rw [List.forall₂_cons, hgroup.spells_iff, ih]
      cases hgroups with
      | nil => simp
      | cons hnext hrest =>
          rw [List.intercalate_cons_cons, List.mem_append, List.mem_append, not_or, not_or]
          simp

/-- The shown groups are any groups with their characters as they are shown. -/
lemma map_shownChar_groups (h : List.Forall₂ ShowsOctet bytes groups) :
    ([':'].intercalate groups).map shownChar = [':'].intercalate (bytes.map Hex.encodeByte) := by
  induction h with
  | nil => rfl
  | @cons b group bytes groups hgroup hgroups ih =>
      cases hgroups with
      | nil => simpa using hgroup.map_shownChar
      | cons hnext hrest =>
          rw [List.map_cons, List.map_cons, List.intercalate_cons_cons, List.intercalate_cons_cons,
            ← List.map_cons, ← ih, List.map_append, List.map_append, hgroup.map_shownChar]
          rfl

end Groups

/-! ### Addresses -/

/-- Text that shows an address: six groups with colons between, one for each octet in the order in
which they are shown. -/
def Shows (a : BdAddress) (text : List Char) : Prop :=
  ∃ groups, text = [':'].intercalate groups ∧ List.Forall₂ ShowsOctet a.octets.bytes groups

/-- Text that shows an address in digits alone, two for each octet. -/
def ShowsInDigits (a : BdAddress) (text : List Char) : Prop :=
  ∃ groups, text = [':'].intercalate groups ∧ List.Forall₂ Spells a.octets.bytes groups

/-- The texts that show an address are the ones that are read as that address. -/
theorem ofText?_eq_some_iff {text : List Char} {a : BdAddress} :
    ofText? text = some a ↔ a.Shows text := by
  constructor
  · intro h
    obtain ⟨octets, hoctets, h⟩ := Option.bind_eq_some_iff.mp h
    obtain ⟨block, hblock, h⟩ := Option.bind_eq_some_iff.mp h
    cases h
    refine ⟨Text.splitOn ':' text, ?_, ?_⟩
    · rw [Text.splitOn_eq, List.intercalate_splitOn]
    · rw [Block.ofBytes?_eq_some_iff.mp hblock]
      exact mapM_octet?_eq_some_iff.mp hoctets
  · rintro ⟨groups, rfl, hgroups⟩
    rw [ofText?_groups hgroups, Block.ofBytes?_eq_some_iff.mpr rfl]
    rfl

/-- The shown form of an address shows that address. -/
lemma ofText?_toText (a : BdAddress) : ofText? a.toText = some a :=
  ofText?_eq_some_iff.mpr
    ⟨_, rfl, (Hex.forall₂_encodeByte _).imp fun _ _ => .digits⟩

/-- The shown form of an address is any text that shows it, with its characters as they are shown.
-/
lemma toText_of_shows {text : List Char} {a : BdAddress} (h : a.Shows text) :
    a.toText = text.map shownChar := by
  obtain ⟨groups, rfl, hgroups⟩ := h
  exact (map_shownChar_groups hgroups).symm

/-- Text shows an address in digits alone if it shows the address and has no sign. -/
lemma showsInDigits_iff {text : List Char} {a : BdAddress} :
    a.ShowsInDigits text ↔ a.Shows text ∧ '+' ∉ text := by
  constructor
  · rintro ⟨groups, rfl, hgroups⟩
    have hshows : List.Forall₂ ShowsOctet a.octets.bytes groups := hgroups.imp fun _ _ => .digits
    exact ⟨⟨groups, rfl, hshows⟩, (spells_groups_iff hshows).mp hgroups⟩
  · rintro ⟨⟨groups, rfl, hgroups⟩, hsign⟩
    exact ⟨groups, rfl, (spells_groups_iff hgroups).mpr hsign⟩

/-- Without signs, the characters of a text are shown in lower case. -/
lemma map_shownChar_of_unsigned {text : List Char} (hsign : '+' ∉ text) :
    text.map shownChar = text.map Char.toLower :=
  List.map_congr_left fun c hc => if_neg fun hplus : c = '+' => hsign (hplus ▸ hc)

/-- The texts that are read as an address are those that show it, and of every other text it is told
that it shows none. The shown form of the address is the text in lower case, with a zero in the
place of each sign. Without signs, the texts that are read are six groups of two digits each, and
the shown form is the text in lower case. -/
theorem ofString_exact (s : String) :
    (∀ a, ofString s = .ok a ↔ a.Shows s.toList) ∧
      ((∀ a : BdAddress, ¬a.Shows s.toList) → ofString s = .error ⟨s⟩) ∧
      (∀ a, ofString s = .ok a → a.toText = s.toList.map shownChar) ∧
      ('+' ∉ s.toList →
        (∀ a, ofString s = .ok a ↔ a.ShowsInDigits s.toList) ∧
          ∀ a, ofString s = .ok a → a.toText = s.toList.map Char.toLower) := by
  have hread : ∀ a, ofString s = .ok a ↔ a.Shows s.toList := by
    intro a
    rw [← ofText?_eq_some_iff, ofString]
    cases ofText? s.toList with
    | none => exact ⟨nofun, nofun⟩
    | some b =>
        exact ⟨fun h => congrArg some (Except.ok.inj h),
          fun h => congrArg Except.ok (Option.some.inj h)⟩
  refine ⟨hread, fun hnone => ?_, fun a ha => toText_of_shows ((hread a).mp ha), fun hsign =>
    ⟨fun a => ?_, fun a ha => ?_⟩⟩
  · rw [ofString]
    cases htext : ofText? s.toList with
    | none => rfl
    | some a => exact absurd (ofText?_eq_some_iff.mp htext) (hnone a)
  · rw [hread, showsInDigits_iff, and_iff_left hsign]
  · rw [toText_of_shows ((hread a).mp ha), map_shownChar_of_unsigned hsign]

/-- The address 01:fe:dc:ba:98:76. -/
def mixedCase : BdAddress := ⟨⟨[0x01, 0xfe, 0xdc, 0xba, 0x98, 0x76], rfl⟩⟩

/-- Digits in both cases are read, with or without a sign in the place of a zero, and of text with a
group too few it is told that it shows no address. -/
theorem ofString_exact_mixedCase :
    (ofString "01:fE:Dc:BA:98:76" = .ok mixedCase ∧ '+' ∉ "01:fE:Dc:BA:98:76".toList ∧
        mixedCase.toText = "01:fE:Dc:BA:98:76".toList.map Char.toLower) ∧
      (ofString "+1:fE:Dc:BA:98:76" = .ok mixedCase ∧
        mixedCase.toText = "+1:fE:Dc:BA:98:76".toList.map shownChar) ∧
      ofString "01:fE:Dc:BA:98" = .error ⟨"01:fE:Dc:BA:98"⟩ := by
  have hdigits : ofString "01:fE:Dc:BA:98:76" = .ok mixedCase := by decide
  have hunsigned : '+' ∉ "01:fE:Dc:BA:98:76".toList := by decide
  have hsigned : ofString "+1:fE:Dc:BA:98:76" = .ok mixedCase := by decide
  have hfive : ofText? "01:fE:Dc:BA:98".toList = none := by decide
  refine ⟨⟨hdigits, hunsigned, ((ofString_exact _).2.2.2 hunsigned).2 _ hdigits⟩,
    ⟨hsigned, (ofString_exact _).2.2.1 _ hsigned⟩, (ofString_exact _).2.1 fun a ha => ?_⟩
  rw [ofText?_eq_some_iff.mpr ha] at hfive
  cases hfive

/-- A sign takes the place of a digit: an address is read from text that has not two digits in each
group, and its shown form is not that text in lower case. -/
theorem ofString_signed :
    ofString "+1:fe:dc:ba:98:76" = .ok mixedCase ∧
      ¬mixedCase.ShowsInDigits "+1:fe:dc:ba:98:76".toList ∧
      mixedCase.toText ≠ "+1:fe:dc:ba:98:76".toList.map Char.toLower := by
  refine ⟨by decide, ?_, by decide⟩
  rw [showsInDigits_iff, not_and_not_right]
  exact fun _ => by decide

end BdAddress

end RadioFrame
