import RadioFrame.Proofs.Wire.Scalar
import RadioFrame.Wire.Skip

/-!
What complete records look like, told without the readers.

* `IsNumber`: groups of seven bits, ten at most, that make a number of 64 bits. A number may be
  spelled longer than it has to be.
* `IsKey`: the number of a tag and a layout.
* `IsValue`: what may stand behind a key: a number, eight or four bytes, a length and as many bytes,
  or a group, that is any records and then the key that closes it. The depth of a value is how many
  groups stand around its innermost field, that field counted as well.
* `IsRecord`: a key and a value that it announces.

The readers read just these: `readNumber_eq_ok_iff`, `readKey_eq_ok_iff`, `readSized_eq_ok_iff`. A
value is passed over just when the budget is not less than its depth (`skip_eq_ok_iff`), and with a
smaller budget the nesting is what is refused (`IsValue.skip_eq_tooDeep`).
-/

namespace RadioFrame.Wire

/-! ### Numbers -/

/-- Bytes that spell a number: ten groups at most, and a number of 64 bits. -/
structure IsNumber (w : Bytes) (n : Nat) : Prop where
  /-- They are groups that make the number. -/
  groups : Varint.Groups w n
  /-- They are ten at most. -/
  length_le : w.length ≤ Varint.maxLength
  /-- The number has 64 bits. -/
  lt : n < 2 ^ 64

lemma readNumber_eq_ok_iff {bytes rest : Bytes} {n : Nat} :
    readNumber bytes = .ok (n, rest) ↔ ∃ w, bytes = w ++ rest ∧ IsNumber w n := by
  have hread : readNumber bytes = .ok (n, rest) ↔
      Varint.readGroups? (9 + 1) bytes = some (n, rest) := by
    rw [readNumber, Varint.read?, Varint.maxLength]
    cases Varint.readGroups? 10 bytes with
    | none => simp
    | some r => simp
  rw [hread]
  constructor
  · intro h
    obtain ⟨w, hbytes, hw, hlen, hlt⟩ := Varint.exists_groups h
    exact ⟨w, hbytes, hw, hlen, by omega⟩
  · rintro ⟨w, rfl, hw, hlen, hlt⟩
    exact hw.readGroups? rest 9 hlen (by omega)

/-- Bytes that are read as a number to their end spell it. -/
lemma isNumber_of_read {w : Bytes} {n : Nat} (h : readNumber w = .ok (n, [])) : IsNumber w n := by
  obtain ⟨w', hw, hn⟩ := readNumber_eq_ok_iff.mp h
  rw [List.append_nil] at hw
  rwa [hw]

/-- What is written as a number spells it. -/
lemma isNumber_write {n : Nat} (h : n < 2 ^ 64) : IsNumber (Varint.write n) n := by
  have hread := readNumber_write h []
  rw [List.append_nil] at hread
  exact isNumber_of_read hread

lemma IsNumber.length_pos {w : Bytes} {n : Nat} (h : IsNumber w n) : 0 < w.length :=
  h.groups.length_pos

/-- Reading a number takes at least one byte. -/
lemma length_lt_of_readNumber {bytes rest : Bytes} {n : Nat}
    (h : readNumber bytes = .ok (n, rest)) : rest.length < bytes.length := by
  obtain ⟨w, rfl, hw⟩ := readNumber_eq_ok_iff.mp h
  have hpos := hw.length_pos
  rw [List.length_append]
  omega

/-- A number is read, whatever follows. -/
lemma IsNumber.read {w : Bytes} {n : Nat} (h : IsNumber w n) (rest : Bytes) :
    readNumber (w ++ rest) = .ok (n, rest) := readNumber_eq_ok_iff.mpr ⟨w, rfl, h⟩

/-- Two numbers at the front of the same bytes are the same. -/
lemma IsNumber.eq_of_append {w w' bytes bytes' : Bytes} {n n' : Nat} (h : IsNumber w n)
    (h' : IsNumber w' n') (heq : w ++ bytes = w' ++ bytes') : n = n' ∧ bytes = bytes' :=
  h.groups.eq_of_append h'.groups heq

/-! ### Keys -/

lemma ofCode?_eq_some_iff {code : Nat} {t : WireType} :
    WireType.ofCode? code = some t ↔ t.code = code := by
  constructor
  · intro h
    rw [WireType.ofCode?.eq_def] at h
    split at h <;> cases h <;> rfl
  · rintro rfl
    exact ofCode?_code t

/-- Bytes that spell a key: the number of its tag and its layout. -/
structure IsKey (w : Bytes) (key : Key) : Prop where
  /-- They spell the number of the key. -/
  number : IsNumber w (8 * key.tag + key.wireType.code)
  /-- The tag is one that keys can hold. -/
  tag_valid : ValidTag key.tag

lemma readKey_eq_ok_iff {bytes rest : Bytes} {key : Key} :
    readKey bytes = .ok (key, rest) ↔ ∃ w, bytes = w ++ rest ∧ IsKey w key := by
  rw [readKey, bind_eq_ok]
  constructor
  · rintro ⟨⟨n, r⟩, hn, h⟩
    obtain ⟨w, rfl, hw⟩ := readNumber_eq_ok_iff.mp hn
    dsimp only at h
    split at h
    · cases h
    · next hsize =>
        change ¬4294967296 ≤ n at hsize
        split at h
        · cases h
        · next wireType hcode =>
            split at h
            · cases h
            · cases h
              have hn : 8 * (n / 8) + wireType.code = n := by
                rw [ofCode?_eq_some_iff.mp hcode]
                omega
              have hpos : 0 < n / 8 := by omega
              have hlt : n / 8 < 0x20000000 := by omega
              exact ⟨w, rfl, by rw [hn]; exact hw, hpos, hlt⟩
  · rintro ⟨w, rfl, hw, hpos, hlt⟩
    obtain ⟨tag, wireType⟩ := key
    dsimp only at hpos hlt
    have hcode := code_lt wireType
    have hmod : (8 * tag + wireType.code) % 8 = wireType.code := by omega
    have hdiv : (8 * tag + wireType.code) / 8 = tag := by omega
    have hsize : ¬UInt32.size ≤ 8 * tag + wireType.code := by
      change ¬4294967296 ≤ 8 * tag + wireType.code
      omega
    refine ⟨_, hw.read rest, ?_⟩
    dsimp only
    rw [if_neg hsize, hmod, ofCode?_code, hdiv]
    exact if_neg (by omega)

/-- Bytes that are read as a key to their end spell it. -/
lemma isKey_of_read {w : Bytes} {key : Key} (h : readKey w = .ok (key, [])) : IsKey w key := by
  obtain ⟨w', hw, hk⟩ := readKey_eq_ok_iff.mp h
  rw [List.append_nil] at hw
  rwa [hw]

/-- What is written as a key spells it. -/
lemma isKey_writeKey {tag : Nat} (h : ValidTag tag) (wireType : WireType) :
    IsKey (writeKey tag wireType) ⟨tag, wireType⟩ := by
  have hread := readKey_writeKey h wireType []
  rw [List.append_nil] at hread
  exact isKey_of_read hread

lemma IsKey.length_pos {w : Bytes} {key : Key} (h : IsKey w key) : 0 < w.length :=
  h.number.length_pos

/-- A key is read, whatever follows. -/
lemma IsKey.read {w : Bytes} {key : Key} (h : IsKey w key) (rest : Bytes) :
    readKey (w ++ rest) = .ok (key, rest) := readKey_eq_ok_iff.mpr ⟨w, rfl, h⟩

/-- Reading a key takes at least one byte. -/
lemma length_lt_of_readKey {bytes rest : Bytes} {key : Key} (h : readKey bytes = .ok (key, rest)) :
    rest.length < bytes.length := by
  obtain ⟨w, rfl, hw⟩ := readKey_eq_ok_iff.mp h
  have hpos := hw.length_pos
  rw [List.length_append]
  omega

lemma expect_eq_ok_iff {expected found : WireType} :
    expect expected found = .ok () ↔ found = expected := by
  rw [expect]
  split
  · exact iff_of_true rfl ‹_›
  · refine iff_of_false (fun h => ?_) ‹_›
    cases h

/-! ### Runs of bytes -/

lemma readRun_eq_ok_iff {size : Nat} {bytes run rest : Bytes} :
    readRun size bytes = .ok (run, rest) ↔ bytes = run ++ rest ∧ run.length = size := by
  constructor
  · intro h
    rw [readRun] at h
    split at h
    · next hle =>
        cases h
        exact ⟨(List.take_append_drop size bytes).symm, List.length_take_of_le hle⟩
    · cases h
  · rintro ⟨rfl, rfl⟩
    exact readRun_append run rest

lemma readSized_eq_ok_iff {bytes content rest : Bytes} :
    readSized bytes = .ok (content, rest) ↔
      ∃ w, bytes = w ++ (content ++ rest) ∧ IsNumber w content.length := by
  rw [readSized, bind_eq_ok]
  constructor
  · rintro ⟨⟨n, r⟩, hn, hrun⟩
    obtain ⟨w, rfl, hw⟩ := readNumber_eq_ok_iff.mp hn
    obtain ⟨rfl, rfl⟩ := readRun_eq_ok_iff.mp hrun
    exact ⟨w, rfl, hw⟩
  · rintro ⟨w, rfl, hw⟩
    exact ⟨_, hw.read _, readRun_eq_ok_iff.mpr ⟨rfl, rfl⟩⟩

/-! ### Values and records -/

/-- The bytes of a complete value behind a key, and how deep it is nested. -/
inductive IsValue : Key → Nat → Bytes → Prop
  /-- A number. -/
  | number {tag n : Nat} {w : Bytes} (h : IsNumber w n) : IsValue ⟨tag, .varint⟩ 1 w
  /-- Eight bytes. -/
  | sixtyFourBit {tag : Nat} {w : Bytes} (h : w.length = 8) : IsValue ⟨tag, .sixtyFourBit⟩ 1 w
  /-- Four bytes. -/
  | thirtyTwoBit {tag : Nat} {w : Bytes} (h : w.length = 4) : IsValue ⟨tag, .thirtyTwoBit⟩ 1 w
  /-- A length and as many bytes. -/
  | sized {tag : Nat} {w content : Bytes} (h : IsNumber w content.length) :
      IsValue ⟨tag, .lengthDelimited⟩ 1 (w ++ content)
  /-- The key that closes a group. -/
  | close {tag : Nat} {w : Bytes} (h : IsKey w ⟨tag, .endGroup⟩) : IsValue ⟨tag, .startGroup⟩ 1 w
  /-- A record of a group before the rest of it. -/
  | inGroup {tag depth depth' : Nat} {key : Key} {k v w : Bytes} (hk : IsKey k key)
      (hv : IsValue key depth v) (hw : IsValue ⟨tag, .startGroup⟩ depth' w) :
      IsValue ⟨tag, .startGroup⟩ (max (depth + 1) depth') (k ++ (v ++ w))

/-- The bytes of a complete record of a given key, and how deep it is nested. -/
def IsRecord (r : Bytes) (key : Key) (depth : Nat) : Prop :=
  ∃ k v, r = k ++ v ∧ IsKey k key ∧ IsValue key depth v

lemma IsValue.ne_endGroup {key : Key} {depth : Nat} {w : Bytes} (h : IsValue key depth w) :
    key.wireType ≠ .endGroup := by
  cases h with
  | number _ | sixtyFourBit _ | thirtyTwoBit _ | sized _ | close _ | inGroup _ _ _ =>
      exact WireType.noConfusion

/-- A value has at least one byte. -/
lemma IsValue.length_pos {key : Key} {depth : Nat} {w : Bytes} (h : IsValue key depth w) :
    0 < w.length := by
  cases h with
  | number h => exact h.length_pos
  | sixtyFourBit h | thirtyTwoBit h => omega
  | sized h =>
      have hpos := h.length_pos
      rw [List.length_append]
      omega
  | close h => exact h.length_pos
  | inGroup hk _ _ =>
      have hpos := hk.length_pos
      rw [List.length_append]
      omega

lemma IsRecord.length_pos {r : Bytes} {key : Key} {depth : Nat} (h : IsRecord r key depth) :
    0 < r.length := by
  obtain ⟨k, v, rfl, hk, _⟩ := h
  have hpos := hk.length_pos
  rw [List.length_append]
  omega

/-! ### Passing over values -/

section Passing

variable {skipRecord : Key → Bytes → Except Fault Bytes} {tag budget : Nat}

/-- More fuel than there are bytes changes nothing. -/
lemma skipGroup_fuel
    (hle : ∀ {key bytes rest}, skipRecord key bytes = .ok rest → rest.length ≤ bytes.length) :
    ∀ {fuel fuel' : Nat} {bytes : Bytes}, bytes.length ≤ fuel → bytes.length ≤ fuel' →
      skipGroup skipRecord tag fuel bytes = skipGroup skipRecord tag fuel' bytes
  | 0, 0, _, _, _ => rfl
  | 0, fuel' + 1, [], _, _ => rfl
  | fuel + 1, 0, [], _, _ => rfl
  | fuel + 1, fuel' + 1, bytes, h, h' => by
      rw [skipGroup, skipGroup]
      cases hkey : readKey bytes with
      | error e => rfl
      | ok p =>
          obtain ⟨key, rest⟩ := p
          have hlt := length_lt_of_readKey hkey
          rw [ok_bind, ok_bind]
          dsimp only
          split
          · rfl
          · cases hskip : skipRecord key rest with
            | error e => rfl
            | ok rest' =>
                have hrest := hle hskip
                exact skipGroup_fuel hle (by omega) (by omega)

lemma skipGroup_length_le
    (hle : ∀ {key bytes rest}, skipRecord key bytes = .ok rest → rest.length ≤ bytes.length) :
    ∀ {fuel : Nat} {bytes rest : Bytes}, skipGroup skipRecord tag fuel bytes = .ok rest →
      rest.length ≤ bytes.length
  | 0, _, _, h => by cases h
  | fuel + 1, bytes, rest, h => by
      obtain ⟨⟨key, r⟩, hkey, hbody⟩ := bind_eq_ok.mp h
      have hlt := length_lt_of_readKey hkey
      dsimp only at hbody
      split at hbody
      · split at hbody
        · cases hbody
          omega
        · cases hbody
      · obtain ⟨r', hskip, hrest⟩ := bind_eq_ok.mp hbody
        have hr := hle hskip
        have hrest := skipGroup_length_le hle hrest
        omega

/-- Passing over something leaves no more bytes than there were. -/
lemma skip_length_le : ∀ {budget : Nat} {key : Key} {bytes rest : Bytes},
    skip budget key bytes = .ok rest → rest.length ≤ bytes.length
  | 0, _, _, _, h => by cases h
  | budget + 1, ⟨tag, wireType⟩, bytes, rest, h => by
      cases wireType with
      | varint =>
          obtain ⟨⟨n, r⟩, hn, hok⟩ := bind_eq_ok.mp h
          cases hok
          obtain ⟨w, rfl, _⟩ := readNumber_eq_ok_iff.mp hn
          exact List.length_append ▸ Nat.le_add_left _ _
      | sixtyFourBit | thirtyTwoBit =>
          obtain ⟨⟨run, r⟩, hrun, hok⟩ := bind_eq_ok.mp h
          cases hok
          obtain ⟨rfl, _⟩ := readRun_eq_ok_iff.mp hrun
          exact List.length_append ▸ Nat.le_add_left _ _
      | lengthDelimited =>
          obtain ⟨⟨content, r⟩, hsized, hok⟩ := bind_eq_ok.mp h
          cases hok
          obtain ⟨w, rfl, _⟩ := readSized_eq_ok_iff.mp hsized
          rw [List.length_append, List.length_append]
          omega
      | startGroup => exact skipGroup_length_le skip_length_le h
      | endGroup => cases h

/-- A group is passed over record by record, up to and with the key that closes it. -/
lemma skip_group (tag budget : Nat) (bytes : Bytes) :
    skip (budget + 1) ⟨tag, .startGroup⟩ bytes = (do
      let (key, rest) ← readKey bytes
      if key.wireType = .endGroup then
        if key.tag = tag then .ok rest else .error (.plain .strayEndGroup)
      else
        let rest ← skip budget key rest
        skip (budget + 1) ⟨tag, .startGroup⟩ rest) := by
  change skipGroup (skip budget) tag bytes.length bytes = _
  rw [skipGroup_fuel skip_length_le (Nat.le_refl _) (Nat.le_succ bytes.length), skipGroup]
  cases hkey : readKey bytes with
  | error e => rfl
  | ok p =>
      obtain ⟨key, rest⟩ := p
      have hlt := length_lt_of_readKey hkey
      rw [ok_bind, ok_bind]
      dsimp only
      split
      · rfl
      · cases hskip : skip budget key rest with
        | error e => rfl
        | ok rest' =>
            have hle := skip_length_le hskip
            exact skipGroup_fuel skip_length_le (by omega) (Nat.le_refl _)

/-- With a budget that is not less than its depth, a value is passed over, whatever follows. -/
lemma IsValue.skip {key : Key} {depth : Nat} {w : Bytes} (h : IsValue key depth w) (rest : Bytes) :
    ∀ {budget}, depth ≤ budget → Wire.skip budget key (w ++ rest) = .ok rest := by
  induction h generalizing rest with
  | number h =>
      rintro (_ | budget) hle
      · omega
      · exact bind_eq_ok.mpr ⟨_, h.read rest, rfl⟩
  | sixtyFourBit h | thirtyTwoBit h =>
      rintro (_ | budget) hle
      · omega
      · exact bind_eq_ok.mpr ⟨_, readRun_eq_ok_iff.mpr ⟨rfl, h⟩, rfl⟩
  | sized h =>
      rintro (_ | budget) hle
      · omega
      · exact bind_eq_ok.mpr
          ⟨_, readSized_eq_ok_iff.mpr ⟨_, List.append_assoc _ _ _, h⟩, rfl⟩
  | close h =>
      rintro (_ | budget) hle
      · omega
      · rw [skip_group, h.read, ok_bind]
        dsimp only
        rw [if_pos rfl, if_pos rfl]
  | @inGroup tag depth depth' key k v w hk hv _ ihv ihw =>
      rintro (_ | budget) hle
      · omega
      · have hne := hv.ne_endGroup
        rw [skip_group, List.append_assoc, hk.read, ok_bind]
        dsimp only
        rw [if_neg hne, List.append_assoc, ihv _ (by omega), ok_bind]
        exact ihw rest (by omega)

/-- With a smaller budget a value is refused for its nesting, whatever follows. -/
lemma IsValue.skip_eq_tooDeep {key : Key} {depth : Nat} {w : Bytes} (h : IsValue key depth w)
    (rest : Bytes) :
    ∀ {budget}, budget < depth → Wire.skip budget key (w ++ rest) = .error (.plain .tooDeep) := by
  induction h generalizing rest with
  | number _ | sixtyFourBit _ | thirtyTwoBit _ | sized _ | close _ =>
      intro budget hlt
      obtain rfl : budget = 0 := by omega
      rfl
  | @inGroup tag depth depth' key k v w hk hv _ ihv ihw =>
      rintro (_ | budget) hlt
      · rfl
      · have hne := hv.ne_endGroup
        rw [skip_group, List.append_assoc, hk.read, ok_bind]
        dsimp only
        rw [if_neg hne, List.append_assoc]
        -- the first field that is too deep decides; the fields before it are passed over
        by_cases hdepth : depth ≤ budget
        · rw [hv.skip _ hdepth, ok_bind]
          exact ihw rest (by omega)
        · rw [ihv _ (by omega), error_bind]

/-- A group that is passed over is one, if what is passed over inside it are values. -/
lemma exists_isValue_of_skip_group
    (hfields : ∀ {key bytes rest}, skip budget key bytes = .ok rest →
      ∃ depth w, bytes = w ++ rest ∧ IsValue key depth w ∧ depth ≤ budget) :
    ∀ (bound : Nat) {bytes rest : Bytes}, bytes.length ≤ bound →
      skip (budget + 1) ⟨tag, .startGroup⟩ bytes = .ok rest →
      ∃ depth w, bytes = w ++ rest ∧ IsValue ⟨tag, .startGroup⟩ depth w ∧ depth ≤ budget + 1 := by
  intro bound
  induction bound with
  | zero =>
      intro bytes rest hlen h
      obtain rfl : bytes = [] := List.length_eq_zero_iff.mp (Nat.le_zero.mp hlen)
      cases h
  | succ bound ih =>
      intro bytes rest hlen h
      rw [skip_group] at h
      obtain ⟨⟨key, r⟩, hkey, hbody⟩ := bind_eq_ok.mp h
      obtain ⟨k, rfl, hk⟩ := readKey_eq_ok_iff.mp hkey
      dsimp only at hbody
      split at hbody
      · next hend =>
          split at hbody
          · next htag =>
              cases hbody
              obtain ⟨_, _⟩ := key
              subst hend htag
              exact ⟨1, k, rfl, .close hk, by omega⟩
          · cases hbody
      · obtain ⟨r', hskip, hrest⟩ := bind_eq_ok.mp hbody
        obtain ⟨depth, v, rfl, hv, hdepth⟩ := hfields hskip
        have hpos := hk.length_pos
        simp only [List.length_append] at hlen
        obtain ⟨depth', w, rfl, hw, hdepth'⟩ := ih (by omega) hrest
        refine ⟨_, k ++ (v ++ w), ?_, .inGroup hk hv hw, by omega⟩
        simp only [List.append_assoc]

/-- What is passed over is a value that is not nested deeper than the budget. -/
lemma exists_isValue_of_skip : ∀ {budget : Nat} {key : Key} {bytes rest : Bytes},
    skip budget key bytes = .ok rest →
      ∃ depth w, bytes = w ++ rest ∧ IsValue key depth w ∧ depth ≤ budget
  | 0, _, _, _, h => by cases h
  | budget + 1, ⟨tag, wireType⟩, bytes, rest, h => by
      cases wireType with
      | varint =>
          obtain ⟨⟨n, r⟩, hn, hok⟩ := bind_eq_ok.mp h
          cases hok
          obtain ⟨w, rfl, hw⟩ := readNumber_eq_ok_iff.mp hn
          exact ⟨1, w, rfl, .number hw, by omega⟩
      | sixtyFourBit =>
          obtain ⟨⟨run, r⟩, hrun, hok⟩ := bind_eq_ok.mp h
          cases hok
          obtain ⟨rfl, hlen⟩ := readRun_eq_ok_iff.mp hrun
          exact ⟨1, run, rfl, .sixtyFourBit hlen, by omega⟩
      | thirtyTwoBit =>
          obtain ⟨⟨run, r⟩, hrun, hok⟩ := bind_eq_ok.mp h
          cases hok
          obtain ⟨rfl, hlen⟩ := readRun_eq_ok_iff.mp hrun
          exact ⟨1, run, rfl, .thirtyTwoBit hlen, by omega⟩
      | lengthDelimited =>
          obtain ⟨⟨content, r⟩, hsized, hok⟩ := bind_eq_ok.mp h
          cases hok
          obtain ⟨w, rfl, hw⟩ := readSized_eq_ok_iff.mp hsized
          exact ⟨1, w ++ content, (List.append_assoc _ _ _).symm, .sized hw, by omega⟩
      | startGroup => exact exists_isValue_of_skip_group exists_isValue_of_skip _ (Nat.le_refl _) h
      | endGroup => cases h

/-- A value is passed over just when the budget is not less than its depth. -/
theorem skip_eq_ok_iff {budget : Nat} {key : Key} {bytes rest : Bytes} :
    skip budget key bytes = .ok rest ↔
      ∃ depth w, bytes = w ++ rest ∧ IsValue key depth w ∧ depth ≤ budget := by
  constructor
  · exact exists_isValue_of_skip
  · rintro ⟨depth, w, rfl, hw, hle⟩
    exact hw.skip rest hle

/-- Two records at the front of the same bytes are the same. -/
lemma IsRecord.eq_of_append {r r' x y : Bytes} {key key' : Key} {depth depth' : Nat}
    (h : IsRecord r key depth) (h' : IsRecord r' key' depth') (heq : r ++ x = r' ++ y) :
    r = r' ∧ x = y := by
  have hrest : x = y := by
    obtain ⟨k, v, rfl, hk, hv⟩ := h
    obtain ⟨k', v', rfl, hk', hv'⟩ := h'
    have hkey := hk.read (v ++ x)
    rw [← List.append_assoc, heq, List.append_assoc, hk'.read, Except.ok.injEq,
      Prod.mk.injEq] at hkey
    obtain ⟨rfl, hvalue⟩ := hkey
    have hskip := hv.skip x (Nat.le_max_left depth depth')
    rw [← hvalue, hv'.skip y (Nat.le_max_right depth depth'), Except.ok.injEq] at hskip
    exact hskip.symm
  subst hrest
  exact ⟨List.append_cancel_right heq, rfl⟩

end Passing

end RadioFrame.Wire
