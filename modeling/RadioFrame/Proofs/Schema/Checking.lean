import Mathlib.Algebra.Group.Nat.Defs
import RadioFrame.Proofs.Outcome
import RadioFrame.Proofs.Place
import RadioFrame.Schema.Shape

/-!
Checking loses nothing.

A check is exact for a way back when it accepts just what comes back from a value, and accepts it
as that value: `Exact check back`. So a value survives the way back and another check, and what is
accepted can be had again, bit by bit, from the value. Every check of the library is exact for its
`toRaw`:

* `Datum.exact`: simple values. For words of a vocabulary it needs that no number stands for two
  words; for capability words, that the flags stay below the byte of the domain
  (`DomainCapabilities.toNat_toWord`);
* `Exact.tryEach`, `Exact.tryOption`, `Exact.tryMap`: lists, options and rows of exact checks;
* `Form.exact`, `Body.exact`: fields and whole bodies.
-/

namespace RadioFrame

/-- A check accepts just the values that come back from some value, and as that value. -/
def Exact {α β ε : Type} (check : α → Except ε β) (back : β → α) : Prop :=
  ∀ a b, check a = .ok b ↔ back b = a

namespace Exact

variable {α β ε ε' : Type} {check : α → Except ε β} {back : β → α}

/-- What comes back from a value is accepted as that value. -/
lemma check_back (h : Exact check back) (b : β) : check (back b) = .ok b :=
  (h _ _).mpr rfl

/-- A check that succeeds with what a search finds, which is just what comes back. -/
lemma of_toOption {find? : α → Option β} (hfind : ∀ {a b}, find? a = some b ↔ back b = a)
    (hcheck : ∀ a, (check a).toOption = find? a) : Exact check back := by
  intro a b
  rw [← hfind, ← hcheck]
  cases check a with
  | error e => simp [Except.toOption]
  | ok found => simp [Except.toOption]

/-- The wording of the error does not matter. -/
lemma mapError (h : Exact check back) (f : ε → ε') :
    Exact (fun a => (check a).mapError f) back := fun a b =>
  mapError_eq_ok.trans (h a b)

/-- Lists of an exact check. -/
lemma tryEach (h : Exact check back) : Exact (RadioFrame.tryEach check) (List.map back) := by
  intro as bs
  induction as generalizing bs with
  | nil => cases bs <;> simp [RadioFrame.tryEach]
  | cons a as ih =>
      rw [RadioFrame.tryEach, bind_eq_ok]
      constructor
      · rintro ⟨b, hb, hrest⟩
        obtain ⟨rest, hr, hbs⟩ := bind_eq_ok.mp hrest
        cases hbs
        rw [List.map_cons, (h a b).mp hb, (ih rest).mp hr]
      · intro hmap
        obtain ⟨b, rest, rfl, hb, hr⟩ := List.map_eq_cons_iff.mp hmap
        exact ⟨b, (h a b).mpr hb, bind_eq_ok.mpr ⟨rest, (ih rest).mpr hr, rfl⟩⟩

/-- Values of an exact check that may be absent. -/
lemma tryOption (h : Exact check back) :
    Exact (RadioFrame.tryOption check) (Option.map back) := by
  intro a b
  cases a with
  | none => cases b <;> simp [RadioFrame.tryOption]
  | some a =>
      rw [RadioFrame.tryOption, bind_eq_ok, Option.map_eq_some_iff]
      constructor
      · rintro ⟨b', hb', hok⟩
        cases hok
        exact ⟨b', rfl, (h a b').mp hb'⟩
      · rintro ⟨b', rfl, hb'⟩
        exact ⟨b', (h a b').mpr hb', rfl⟩

/-- Rows of exact checks. -/
lemma tryMap {ι : Type} {V W : ι → Type} {check : ∀ i, V i → Except ε (W i)}
    {back : ∀ i, W i → V i} (h : ∀ i, Exact (check i) (back i)) :
    ∀ is : List ι, Exact (fun row : Row V is => row.tryMap check) fun row => row.map back
  | [], (), () => ⟨fun _ => rfl, fun _ => rfl⟩
  | i :: is, (v, row), (w, row') => by
      have hrow := Exact.tryMap h is row row'
      constructor
      · intro hok
        obtain ⟨w', hw, hrest⟩ := bind_eq_ok.mp hok
        obtain ⟨rest, hr, heq⟩ := bind_eq_ok.mp hrest
        cases heq
        exact Prod.ext ((h i v w).mp hw) (hrow.mp hr)
      · intro hback
        obtain ⟨hw, hr⟩ := Prod.mk.inj hback
        exact bind_eq_ok.mpr ⟨w, (h i v w).mpr hw, bind_eq_ok.mpr ⟨row', hrow.mpr hr, rfl⟩⟩

end Exact

/-! ### Simple values -/

/-- A number has the one word that it is the number of. -/
lemma Vocabulary.ofNumber?_eq_some_iff {v : Vocabulary} {n : Int32} {w : v.Word} :
    v.ofNumber? n = some w ↔ Vocabulary.number w = n :=
  findFinIdx?_eq_some_iff_of_nodup v.numbers_nodup

namespace DomainCapabilities

/-- The number of a radio domain fills the top byte and nothing else. -/
lemma toNat_number (d : radioDomain.Word) :
    (Vocabulary.number d).toUInt32.toNat = 2 ^ 24 * d.val := by
  revert d
  decide

/-- A capability word: the domain in the top byte, the flags below it. -/
lemma toNat_toWord (e : DomainCapabilities) :
    e.toWord.toNat = 2 ^ 24 * e.domain.val + e.capabilities.bits.toNat := by
  rw [toWord, UInt32.toNat_or, toNat_number,
    Nat.two_pow_add_eq_or_of_lt e.capabilities.bits_lt]

lemma number_eq_domainNumber_iff {word : UInt32} {d : radioDomain.Word} :
    Vocabulary.number d = domainNumber word ↔ d.val = word.toNat / 2 ^ 24 := by
  have hword := word.toNat_lt
  have hnat : (domainNumber word).toUInt32.toNat = word.toNat / 2 ^ 24 * 2 ^ 24 := by
    change (UInt32.ofNat (word.toNat / 2 ^ 24 * 2 ^ 24)).toNat = _
    rw [UInt32.toNat_ofNat_of_lt']
    change _ < 2 ^ 32
    omega
  constructor
  · intro h
    have hd := toNat_number d
    rw [h, hnat] at hd
    omega
  · intro h
    have hsame : (Vocabulary.number d).toUInt32 = (domainNumber word).toUInt32 := by
      apply UInt32.toNat_inj.mp
      rw [hnat, toNat_number, h, Nat.mul_comm]
    exact congrArg Int32.ofUInt32 hsame

/-- The flags of a word are what is below the byte of the domain. -/
lemma toNat_ofBits (word : UInt32) :
    (Capabilities.ofBits word).bits.toNat = word.toNat % 2 ^ 24 := by
  rw [Capabilities.ofBits, UInt32.toNat_ofNat_of_lt']
  · rfl
  · change _ < 2 ^ 32
    omega

lemma ofDomainNumber_eq_ok_iff {number : Int32} {word : UInt32} {e : DomainCapabilities} :
    ofDomainNumber number word = .ok e ↔
      Vocabulary.number e.domain = number ∧ Capabilities.ofBits word = e.capabilities := by
  rw [ofDomainNumber, ← Vocabulary.ofNumber?_eq_some_iff]
  cases radioDomain.ofNumber? number with
  | none => simp
  | some d =>
      obtain ⟨domain, capabilities⟩ := e
      simp

/-- A capability word is accepted as the entry whose word it is. -/
lemma exact_ofWord : Exact ofWord toWord := by
  intro word e
  have hbits := e.capabilities.bits_lt
  have hnat := toNat_toWord e
  have hcapabilities : Capabilities.ofBits word = e.capabilities ↔
      word.toNat % 2 ^ 24 = e.capabilities.bits.toNat := by
    rw [← toNat_ofBits, UInt32.toNat_inj]
    exact ⟨congrArg _, Capabilities.ext⟩
  rw [ofWord, ofDomainNumber_eq_ok_iff, number_eq_domainNumber_iff, hcapabilities,
    ← UInt32.toNat_inj]
  constructor
  · rintro ⟨hdomain, hflags⟩
    omega
  · intro hword
    omega

end DomainCapabilities

namespace Datum

lemma exact_checkLength (length : Nat) : Exact (checkLength length) Block.bytes := by
  refine Exact.of_toOption Block.ofBytes?_eq_some_iff fun bytes => ?_
  rw [checkLength]
  cases Block.ofBytes? length bytes with
  | none => rfl
  | some block => rfl

/-- Addresses are accepted from the order of the wire, and go back to it. -/
lemma ofWire?_eq_some_iff {bytes : Bytes} {a : BdAddress} :
    BdAddress.ofWire? bytes = some a ↔ a.toWire = bytes := by
  rw [BdAddress.ofWire?, BdAddress.toWire, Option.map_eq_some_iff]
  constructor
  · rintro ⟨octets, hoctets, rfl⟩
    rw [Block.reverse_reverse]
    exact Block.ofBytes?_eq_some_iff.mp hoctets
  · intro h
    refine ⟨a.octets.reverse, Block.ofBytes?_eq_some_iff.mpr h, ?_⟩
    rw [Block.reverse_reverse]

/-- The check of every simple value is exact. -/
theorem exact (d : Datum) : Exact d.check d.toRaw := by
  intro raw v
  cases d with
  | natural32 | natural64 | integer | flag =>
      exact ⟨fun h => (Except.ok.inj h).symm, fun h => congrArg Except.ok h.symm⟩
  | word vocabulary =>
      have hcheck : ∀ n, ((word vocabulary).check n).toOption = vocabulary.ofNumber? n := by
        intro n
        rw [check]
        cases vocabulary.ofNumber? n with
        | none => rfl
        | some w => rfl
      exact Exact.of_toOption Vocabulary.ofNumber?_eq_some_iff hcheck raw v
  | payload bound => exact mapError_eq_ok.trans Payload.ofBytes_eq_ok_iff
  | block length => exact exact_checkLength length raw v
  | address =>
      have hcheck : ∀ bytes, (check address bytes).toOption = BdAddress.ofWire? bytes := by
        intro bytes
        rw [check]
        cases BdAddress.ofWire? bytes with
        | none => rfl
        | some a => rfl
      exact Exact.of_toOption ofWire?_eq_some_iff hcheck raw v
  | channels =>
      obtain ⟨block⟩ : ChannelMap := v
      have hblock := exact_checkLength 5 raw block
      constructor
      · intro h
        obtain ⟨b, hb, hok⟩ := bind_eq_ok.mp h
        cases hok
        exact hblock.mp hb
      · intro h
        exact bind_eq_ok.mpr ⟨block, hblock.mpr h, rfl⟩
  | capability => exact mapError_eq_ok.trans (DomainCapabilities.exact_ofWord raw v)

/-- What stands on the wire for zero is acceptable, and means zero. -/
lemma check_rawZero (d : Datum) : d.check d.rawZero = .ok d.zero :=
  (d.exact _ _).mpr d.toRaw_zero

end Datum

/-! ### Fields and bodies -/

lemma Submessage.exact (s : Submessage) : Exact s.check s.toRaw :=
  Exact.tryMap (fun m : Member => m.datum.exact.mapError _) s.members

/-- The check of every form of field is exact. -/
theorem Form.exact (name : String) (f : Form) : Exact (f.check name) f.toRaw := by
  intro raw v
  cases f with
  | single d => exact d.exact.mapError _ raw v
  | list d => exact (d.exact.mapError _).tryEach raw v
  | records s => exact s.exact.tryEach raw v
  | inlined s => exact s.exact raw v
  | optional d => exact (d.exact.mapError _).tryOption raw v
  | optionalRecord s => exact s.exact.tryOption raw v
  | record s =>
      cases (raw : Option s.Raw) with
      | none =>
          constructor
          · intro h
            cases h
          · intro h
            cases h
      | some raw => exact (s.exact raw v).trans ⟨congrArg some, Option.some.inj⟩
  | choice as =>
      cases (raw : Option (OneOf fun i : Fin as.length => (as.get i).submessage.Raw)) with
      | none =>
          constructor
          · intro h
            cases h
          · intro h
            cases h
      | some c =>
          obtain ⟨i, raw⟩ := c
          obtain ⟨j, w⟩ : OneOf fun i : Fin as.length => (as.get i).submessage.Value := v
          constructor
          · intro h
            obtain ⟨w', hw, hok⟩ := bind_eq_ok.mp h
            cases hok
            have hback := ((as.get i).submessage.exact raw w').mp hw
            rw [← hback]
            rfl
          · intro h
            cases h
            exact bind_eq_ok.mpr ⟨w, (as.get i).submessage.exact.check_back w, rfl⟩

/-- The fields of a body make that body, and no other fields do. -/
lemma Body.ofRow_eq_ok_iff {s : Shape} {row : Row Field.Value s.fields} {b : Body s} :
    ofRow s row = .ok b ↔ b.row = row := by
  rw [ofRow]
  split
  · next h => exact ⟨fun hok => by cases hok; rfl, fun heq => by cases heq; rfl⟩
  · next h =>
      constructor
      · intro hok
        cases hok
      · intro heq
        rw [← heq, b.lawful] at h
        cases h

/-- A body is accepted just when it comes back from a checked body, and as that one. -/
theorem Body.exact (s : Shape) : Exact (Body.check s) Body.toRaw := by
  intro raw b
  have hrow := Exact.tryMap (fun f : Field => f.form.exact f.name) s.fields
  rw [check, bind_eq_ok]
  constructor
  · rintro ⟨row, hcheck, hok⟩
    rw [toRaw, ofRow_eq_ok_iff.mp (mapError_eq_ok.mp hok)]
    exact (hrow raw row).mp hcheck
  · intro h
    exact ⟨b.row, (hrow raw b.row).mpr h, mapError_eq_ok.mpr (ofRow_eq_ok_iff.mpr rfl)⟩

end RadioFrame
