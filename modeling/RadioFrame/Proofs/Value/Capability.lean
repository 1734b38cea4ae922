import RadioFrame.Message.Adapter
import RadioFrame.Proofs.Message.RoundTrip
import RadioFrame.Proofs.Message.Validation
import RadioFrame.Schema.Text

/-!
Capability words: the byte of the domain and the 24 bits of the flags.

* `and_domainMask`, `and_flagMask`: what the two masks leave of a word. A number is one of flags
  just when the first mask leaves nothing of it (`Capabilities.ofNumber_eq_ok_iff`), and what the
  second leaves always is (`Capabilities.bits_ofBits`).
* `Capabilities.Recipe`: the ways of coming by flags, put together in any number. What a way comes
  to can be told in plain numbers of 32 bits (`Recipe.bits?`), where nothing but the arithmetic
  keeps a bit out of the byte of the domain. It does (`Recipe.lt_of_bits?`), and the flags are that
  number (`Recipe.map_bits_build?`).
* `DomainCapabilities.toWord_masks`, `DomainCapabilities.ofWord_cases`: the masks take a word apart
  into what it was made of, and a word is refused just when its top byte is that of no domain.
* `InfoResp.words_of_decode`: the entries of an introduction are, word by word, those of its frame.

`DomainCapabilities.ofWord_toWord` puts these together.
-/

namespace RadioFrame

/-! ### The two masks -/

/-- The byte of the domain. -/
def domainMask : UInt32 := 0xff000000

/-- The bits of the flags. -/
def flagMask : UInt32 := 0x00ffffff

lemma and_flagMask (w : UInt32) : (w &&& flagMask).toNat = w.toNat % 2 ^ 24 := by
  rw [UInt32.toNat_and]
  exact Nat.and_two_pow_sub_one_eq_mod w.toNat 24

lemma and_domainMask (w : UInt32) : (w &&& domainMask).toNat = w.toNat / 2 ^ 24 * 2 ^ 24 := by
  have hlt := w.toNat_lt
  have hhigh : (w &&& domainMask).toNat / 2 ^ 24 = w.toNat / 2 ^ 24 := by
    rw [UInt32.toNat_and, Nat.and_div_two_pow]
    exact (Nat.and_two_pow_sub_one_eq_mod _ 8).trans (Nat.mod_eq_of_lt (by omega))
  have hlow : (w &&& domainMask).toNat % 2 ^ 24 = 0 := by
    rw [UInt32.toNat_and, Nat.and_mod_two_pow]
    exact Nat.and_zero _
  omega

/-- Nothing is left of the byte of the domain just when a number is below `2 ^ 24`. -/
lemma and_domainMask_eq_zero_iff {w : UInt32} : w &&& domainMask = 0 ↔ w.toNat < 2 ^ 24 := by
  rw [← UInt32.toNat_inj, and_domainMask]
  change _ = 0 ↔ _
  omega

/-! ### Words -/

/-- Of several steps the first that fails is told. -/
lemma tryEach_of_error {α β ε : Type} {f : α → Except ε β} {before after : List α} {a : α} {e : ε}
    (hbefore : ∀ b ∈ before, ∃ c, f b = .ok c) (ha : f a = .error e) :
    tryEach f (before ++ a :: after) = .error e := by
  induction before with
  | nil => rw [List.nil_append, tryEach, ha, error_bind]
  | cons b before ih =>
      obtain ⟨c, hc⟩ := hbefore b List.mem_cons_self
      rw [List.cons_append, tryEach, hc, ok_bind,
        ih fun x hx => hbefore x (List.mem_cons_of_mem b hx), error_bind]

namespace DomainCapabilities

/-- The masks take a word apart into the domain's number and the flags. -/
lemma toWord_masks (e : DomainCapabilities) :
    e.toWord &&& domainMask = (Vocabulary.number e.domain).toUInt32 ∧
      e.toWord &&& flagMask = e.capabilities.bits := by
  have hbits := e.capabilities.bits_lt
  constructor
  · rw [← UInt32.toNat_inj, and_domainMask, toNat_toWord, toNat_number]
    omega
  · rw [← UInt32.toNat_inj, and_flagMask, toNat_toWord]
    omega

lemma and_domainMask_eq_number_iff {w : UInt32} {d : radioDomain.Word} :
    w &&& domainMask = (Vocabulary.number d).toUInt32 ↔ Vocabulary.number d = domainNumber w := by
  rw [number_eq_domainNumber_iff, ← UInt32.toNat_inj, and_domainMask, toNat_number]
  omega

/-- The number in the byte of the domain is what the mask leaves, read with a sign. -/
lemma domainNumber_eq_toInt32 (w : UInt32) : domainNumber w = (w &&& domainMask).toInt32 := by
  rw [domainNumber, ← UInt32.ofNat_toNat (x := w &&& domainMask), and_domainMask]
  rfl

/-- A word is accepted if its top byte is that of a domain, and refused for that byte otherwise. -/
lemma ofWord_cases (w : UInt32) :
    (∀ d : radioDomain.Word, w &&& domainMask = (Vocabulary.number d).toUInt32 →
        ofWord w = .ok ⟨d, .ofBits w⟩) ∧
      ((∀ d : radioDomain.Word, w &&& domainMask ≠ (Vocabulary.number d).toUInt32) →
        ofWord w = .error ⟨(w &&& domainMask).toInt32⟩) := by
  constructor
  · intro d hd
    exact ofDomainNumber_eq_ok_iff.mpr ⟨and_domainMask_eq_number_iff.mp hd, rfl⟩
  · intro hnone
    rw [← domainNumber_eq_toInt32, ofWord, ofDomainNumber]
    cases hd : radioDomain.ofNumber? (domainNumber w) with
    | none => rfl
    | some d =>
        have hnumber := Vocabulary.ofNumber?_eq_some_iff.mp hd
        exact absurd (and_domainMask_eq_number_iff.mpr hnumber) (hnone d)

/-- Of several words the first whose top byte is that of no domain is the one that is told. -/
lemma check_words {before after : List UInt32} {w : UInt32}
    (hbefore : ∀ v ∈ before, ∃ e, ofWord v = .ok e)
    (hw : ∀ d : radioDomain.Word, w &&& domainMask ≠ (Vocabulary.number d).toUInt32) :
    Form.check "capabilities" (.list .capability) (before ++ w :: after : List UInt32) =
      .error ⟨"capabilities", .unknownNumber (w &&& domainMask).toInt32⟩ := by
  refine tryEach_of_error (fun v hv => ?_) ?_
  · obtain ⟨e, he⟩ := hbefore v hv
    exact ⟨e, mapError_eq_ok.mpr (mapError_eq_ok.mpr he)⟩
  · change ((ofWord w).mapError _).mapError _ = _
    rw [(ofWord_cases w).2 hw]
    rfl

end DomainCapabilities

/-! ### Flags -/

namespace Capabilities

/-- What the mask leaves of a number is one of flags. -/
lemma bits_ofBits (n : UInt32) : (ofBits n).bits = n &&& flagMask := by
  rw [← UInt32.toNat_inj, DomainCapabilities.toNat_ofBits, and_flagMask]

/-- The flags of a number are that number, if it is below `2 ^ 24`. -/
lemma ofNumber_eq_ok_iff {n : UInt32} {c : Capabilities} :
    ofNumber n = .ok c ↔ n.toNat < 2 ^ 24 ∧ c.bits = n := by
  constructor
  · intro h
    rw [ofNumber] at h
    split at h
    · next hlt =>
        cases h
        exact ⟨hlt, rfl⟩
    · cases h
  · rintro ⟨hlt, rfl⟩
    exact dif_pos hlt

/-- Any other number is refused for its four bytes. -/
lemma ofNumber_of_le {n : UInt32} (h : 2 ^ 24 ≤ n.toNat) : ofNumber n = .error ⟨4, 3⟩ := by
  have hlt := n.toNat_lt
  have hwidth : byteWidth n.toNat = 4 := by
    rw [byteWidth_eq (by omega)]
    apply Nat.le_antisymm
    · exact (Nat.digits_length_le_iff (by decide) _).mpr hlt
    · exact (Nat.lt_digits_length_iff (by decide) _).mpr h
  have hlarge : ¬n.toNat < 0x1000000 := Nat.not_lt.mpr h
  rw [ofNumber, dif_neg hlarge, hwidth]

/-- The flags that have names, each with its number. -/
def named : List (Capabilities × UInt32) :=
  [(none, 0), (scan, 0x01), (sniff, 0x02), (inject, 0x04), (jam, 0x08), (hijack, 0x10),
    (hook, 0x20), (simulateRole, 0x40), (noRawData, 0x80)]

/-- A way of coming by flags. -/
inductive Recipe where
  /-- By their name. -/
  | named (k : Fin Capabilities.named.length)
  /-- From any number, what is above them being dropped. -/
  | ofBits (number : UInt32)
  /-- From a number that has to be one of flags. -/
  | ofNumber (number : UInt32)
  /-- From a text. -/
  | ofText (text : String)
  /-- From a capability word. -/
  | ofWord (word : UInt32)
  /-- From two ways, the flags of both, whether they are put in a new place or added to the first.
  -/
  | union (a b : Recipe)

/-- What a number is when it has to be one of flags. -/
def flags? (n : UInt32) : Option UInt32 := if n &&& domainMask = 0 then some n else .none

lemma map_bits_ofNumber (n : UInt32) : (ofNumber n).toOption.map bits = flags? n := by
  by_cases h : n.toNat < 2 ^ 24
  · rw [(ofNumber_eq_ok_iff (c := ⟨n, h⟩)).mpr ⟨h, rfl⟩, flags?,
      if_pos (and_domainMask_eq_zero_iff.mpr h)]
    rfl
  · rw [ofNumber_of_le (Nat.le_of_not_lt h), flags?, if_neg (mt and_domainMask_eq_zero_iff.mp h)]
    rfl

lemma lt_of_flags? {m n : UInt32} (h : flags? m = some n) : n.toNat < 2 ^ 24 := by
  obtain ⟨hm, heq⟩ := Option.ite_none_right_eq_some.mp h
  cases heq
  exact and_domainMask_eq_zero_iff.mp hm

namespace Recipe

/-- The flags that a way leads to, if nothing is refused on it. -/
def build? : Recipe → Option Capabilities
  | named k => some Capabilities.named[k].1
  | ofBits n => some (Capabilities.ofBits n)
  | ofNumber n => (Capabilities.ofNumber n).toOption
  | ofText text => (Capabilities.reader.run text).toOption
  | ofWord w => (DomainCapabilities.ofWord w).toOption.map (·.capabilities)
  | union a b => do
      let c ← a.build?
      let d ← b.build?
      some (c ||| d)

/-- The number that a way leads to, in the arithmetic of 32 bits alone. -/
def bits? : Recipe → Option UInt32
  | named k => some Capabilities.named[k].2
  | ofBits n => some (n &&& flagMask)
  | ofNumber n => flags? n
  | ofText text => (Json.Reader.natural32.run text).toOption.bind flags?
  | ofWord w =>
      if ∃ d : radioDomain.Word, w &&& domainMask = (Vocabulary.number d).toUInt32 then
        some (w &&& flagMask)
      else .none
  | union a b => do
      let m ← a.bits?
      let n ← b.bits?
      some (m ||| n)

/-- No bit above the flags comes of any way, though any number can be put in. -/
lemma lt_of_bits? {r : Recipe} {n : UInt32} (h : r.bits? = some n) : n.toNat < 2 ^ 24 := by
  induction r generalizing n with
  | named k =>
      cases h
      revert k
      decide
  | ofBits m =>
      cases h
      rw [and_flagMask]
      exact Nat.mod_lt _ (by decide)
  | ofNumber m => exact lt_of_flags? h
  | ofText text =>
      obtain ⟨m, -, hm⟩ := Option.bind_eq_some_iff.mp h
      exact lt_of_flags? hm
  | ofWord w =>
      rw [bits?] at h
      obtain ⟨-, heq⟩ := Option.ite_none_right_eq_some.mp h
      cases heq
      rw [and_flagMask]
      exact Nat.mod_lt _ (by decide)
  | union a b iha ihb =>
      obtain ⟨k, hk, hrest⟩ := Option.bind_eq_some_iff.mp h
      obtain ⟨m, hm, hor⟩ := Option.bind_eq_some_iff.mp hrest
      cases hor
      rw [UInt32.toNat_or]
      exact Nat.or_lt_two_pow (iha hk) (ihb hm)

/-- The number that a text spells is made into flags once the text is read to its end. -/
lemma run_andThen {α β : Type} (r : Json.Reader α) (f : α → Except Json.Complaint β)
    (text : String) :
    ((r.andThen f).run text).toOption = (r.run text).toOption.bind fun a => (f a).toOption := by
  rw [Json.Reader.run, Json.Reader.run, Json.Reader.andThen]
  cases r (Json.scan text) with
  | error e => rfl
  | ok p =>
      obtain ⟨a, rest⟩ := p
      rw [ok_bind]
      dsimp only
      cases rest with
      | cons t ts => cases f a <;> rfl
      | nil =>
          change _ = (f a).toOption
          cases f a <;> rfl

/-- The flags that a way leads to are the number that it leads to. -/
lemma map_bits_build? (r : Recipe) : r.build?.map bits = r.bits? := by
  induction r with
  | named k =>
      revert k
      decide
  | ofBits n => exact congrArg some (bits_ofBits n)
  | ofNumber n => exact map_bits_ofNumber n
  | ofText text =>
      rw [build?, bits?, Capabilities.reader, run_andThen, Option.map_bind]
      refine Option.bind_congr fun n _ => ?_
      rw [← map_bits_ofNumber, Function.comp]
      cases Capabilities.ofNumber n <;> rfl
  | ofWord w =>
      obtain ⟨hok, herror⟩ := DomainCapabilities.ofWord_cases w
      rw [build?, bits?]
      split
      · next h =>
          obtain ⟨d, hd⟩ := h
          rw [hok d hd, ← bits_ofBits]
          rfl
      · next h =>
          rw [herror (not_exists.mp h)]
          rfl
  | union a b iha ihb =>
      rw [build?, bits?, ← iha, ← ihb]
      cases a.build? with
      | none => rfl
      | some c =>
          cases b.build? with
          | none => rfl
          | some d => rfl

end Recipe

end Capabilities

/-! ### Introductions -/

namespace InfoResp

/-- The type of introductions. -/
def messageType : MessageType := ⟨.discovery, (⟨1, by decide⟩ : Fin 7)⟩

/-- The capability words of an introduction as it stands on the wire. -/
def words (raw : Discovery.infoResp.Raw) : List UInt32 := raw.2.2.2.2.2.2.2.1

/-- What an introduction that was read says of the domains are the words of its frame, in their
order. -/
lemma words_of_decode {bytes : Bytes} {r : InfoResp}
    (h : Message.decode bytes = .ok ⟨messageType, r⟩) :
    ∃ raw, Frame.decode bytes = .ok (some ⟨.discovery, some ⟨(1 : Fin 7), raw⟩⟩) ∧
      words raw = r.capabilities.map DomainCapabilities.toWord :=
  ⟨r.toRaw, Message.decode_eq_ok_iff.mp h, rfl⟩

/-- The flags of a domain are those of the first entry that is for it. -/
lemma capabilitiesFor_eq_some_iff {r : InfoResp} {d : radioDomain.Word} {c : Capabilities} :
    r.capabilitiesFor d = some c ↔ ∃ before after, r.capabilities = before ++ ⟨d, c⟩ :: after ∧
      ∀ e ∈ before, e.domain ≠ d := by
  rw [capabilitiesFor, Option.map_eq_some_iff]
  constructor
  · rintro ⟨⟨_, _⟩, he, rfl⟩
    obtain ⟨hd, before, after, hlist, hbefore⟩ := List.find?_eq_some_iff_append.mp he
    obtain rfl := of_decide_eq_true hd
    exact ⟨before, after, hlist, fun e hmem => by simpa using hbefore e hmem⟩
  · rintro ⟨before, after, hlist, hbefore⟩
    refine ⟨⟨d, c⟩, List.find?_eq_some_iff_append.mpr
      ⟨decide_eq_true rfl, before, after, hlist, ?_⟩, rfl⟩
    exact fun e hmem => by simpa using hbefore e hmem

end InfoResp

namespace DomainCapabilities

open Capabilities (Recipe ofNumber) in
open InfoResp (messageType words) in
/-- Capability words and their entries stand for each other, and the byte of the domain is the
domain's alone. Flags, however they are come by, have 24 bits, so the word of an entry is taken
apart again into the domain and the flags; a word whose top byte is that of a domain is the word of
its entry, and any other is refused for that byte, in a list the first of them; and a number is one
of flags just when it has 24 bits. An introduction keeps the list of its entries when it is written
and read, and tells of a domain what its first entry says. -/
theorem ofWord_toWord :
    (∀ r : Recipe, r.build?.map Capabilities.bits = r.bits? ∧
        ∀ n, r.bits? = some n → n.toNat < 2 ^ 24) ∧
      (∀ e : DomainCapabilities, ofWord e.toWord = .ok e ∧
        e.toWord &&& domainMask = (Vocabulary.number e.domain).toUInt32 ∧
        e.toWord &&& flagMask = e.capabilities.bits) ∧
      (∀ w : UInt32,
        ((∃ e, ofWord w = .ok e) ↔
          ∃ d : radioDomain.Word, w &&& domainMask = (Vocabulary.number d).toUInt32) ∧
        (∀ e, ofWord w = .ok e → e.toWord = w) ∧
        ((∀ d : radioDomain.Word, w &&& domainMask ≠ (Vocabulary.number d).toUInt32) →
          ofWord w = .error ⟨(w &&& domainMask).toInt32⟩ ∧
          ∀ before after : List UInt32, (∀ v ∈ before, ∃ e, ofWord v = .ok e) →
            Form.check "capabilities" (.list .capability) (before ++ w :: after : List UInt32) =
              .error ⟨"capabilities", .unknownNumber (w &&& domainMask).toInt32⟩)) ∧
      (∀ n : UInt32, (∀ c, ofNumber n = .ok c ↔ n.toNat < 2 ^ 24 ∧ c.bits = n) ∧
        ((∃ o, ofNumber n = .error o) ↔ 2 ^ 24 ≤ n.toNat) ∧
        ∀ o, ofNumber n = .error o → o = ⟨4, 3⟩) ∧
      (∀ r : InfoResp, (Message.encode ⟨messageType, r⟩).length < 2 ^ 64 →
        Message.decode (Message.encode ⟨messageType, r⟩) = .ok ⟨messageType, r⟩) ∧
      (∀ (bytes : Bytes) (r : InfoResp), Message.decode bytes = .ok ⟨messageType, r⟩ →
        ∃ raw, Frame.decode bytes = .ok (some ⟨.discovery, some ⟨(1 : Fin 7), raw⟩⟩) ∧
          words raw = r.capabilities.map toWord) ∧
      ∀ (r : InfoResp) (d : radioDomain.Word),
        (∀ c, r.capabilitiesFor d = some c ↔ ∃ before after,
          r.capabilities = before ++ ⟨d, c⟩ :: after ∧ ∀ e ∈ before, e.domain ≠ d) ∧
        (r.capabilitiesFor d = none ↔ ∀ e ∈ r.capabilities, e.domain ≠ d) := by
  have haccepted : ∀ w : UInt32, (∃ e, ofWord w = .ok e) ↔
      ∃ d : radioDomain.Word, w &&& domainMask = (Vocabulary.number d).toUInt32 := by
    intro w
    constructor
    · rintro ⟨e, he⟩
      exact ⟨e.domain, (exact_ofWord w e).mp he ▸ e.toWord_masks.1⟩
    · rintro ⟨d, hd⟩
      exact ⟨_, (ofWord_cases w).1 d hd⟩
  have hrefused : ∀ n : UInt32, ((∃ o, ofNumber n = .error o) ↔ 2 ^ 24 ≤ n.toNat) ∧
      ∀ o, ofNumber n = .error o → o = ⟨4, 3⟩ := by
    intro n
    by_cases h : n.toNat < 2 ^ 24
    · have hok := (Capabilities.ofNumber_eq_ok_iff (c := ⟨n, h⟩)).mpr ⟨h, rfl⟩
      rw [hok]
      exact ⟨⟨nofun, fun hle => absurd h (Nat.not_lt.mpr hle)⟩, nofun⟩
    · have hle := Nat.le_of_not_lt h
      rw [Capabilities.ofNumber_of_le hle]
      exact ⟨⟨fun _ => hle, fun _ => ⟨_, rfl⟩⟩, fun o ho => (Except.error.inj ho).symm⟩
  refine ⟨fun r => ⟨r.map_bits_build?, fun n => Recipe.lt_of_bits?⟩,
    fun e => ⟨exact_ofWord.check_back e, e.toWord_masks⟩,
    fun w => ⟨haccepted w, fun e => (exact_ofWord w e).mp, fun hw => ⟨(ofWord_cases w).2 hw,
      fun before after hbefore => check_words hbefore hw⟩⟩,
    fun n => ⟨fun c => Capabilities.ofNumber_eq_ok_iff, hrefused n⟩,
    fun r hlen => Message.decode_of_frame (Frame.merge_encode _ hlen),
    fun bytes r => InfoResp.words_of_decode,
    fun r d => ⟨fun c => InfoResp.capabilitiesFor_eq_some_iff, ?_⟩⟩
  rw [InfoResp.capabilitiesFor, Option.map_eq_none_iff, List.find?_eq_none]
  simp

/-- Flags out of a number with other bits, a capability word and a text. -/
def mixedFlags : Capabilities.Recipe :=
  .union (.ofBits 0xff000010) (.union (.ofWord 0x03000005) (.ofText " 8388608"))

/-- The entries of the words that name a domain. -/
def entries (words : List UInt32) : List DomainCapabilities :=
  words.filterMap fun w => (ofWord w).toOption

/-- An introduction that has two entries for Bluetooth Low Energy, and one for ZigBee between them.
-/
def repeatedDomain : InfoResp :=
  ⟨Message.lowEnergyDevice.body.row.set (⟨7, by decide⟩ : Fin 8)
    (entries [0x03000005, 0x04000001, 0x03000002]), rfl⟩

/-- The mixed flags have 24 bits. A word whose sign bit is set is refused for a negative number,
behind a good word in a list as well. The first of two entries for a domain counts, after the
introduction was written and read. -/
theorem ofWord_toWord_signBit :
    (mixedFlags.bits? = some 0x00800015 ∧ (0x00800015 : UInt32).toNat < 2 ^ 24) ∧
      ofWord 0x80000001 = .error ⟨-2147483648⟩ ∧
      Form.check "capabilities" (.list .capability) ([0x03000005, 0x80000001] : List UInt32) =
        .error ⟨"capabilities", .unknownNumber (-2147483648)⟩ ∧
      Capabilities.ofNumber 0xff000001 = .error ⟨4, 3⟩ ∧
      Message.decode (Message.encode ⟨InfoResp.messageType, repeatedDomain⟩) =
        .ok ⟨InfoResp.messageType, repeatedDomain⟩ ∧
      repeatedDomain.capabilitiesFor (3 : Fin 12) = some ⟨5, by decide⟩ := by
  obtain ⟨hflags, -, hword, hnumber, hround, -, hfirst⟩ := ofWord_toWord
  have hmixed : mixedFlags.bits? = some 0x00800015 := by decide
  have hgood : ofWord 0x03000005 = .ok ⟨(3 : Fin 12), ⟨5, by decide⟩⟩ := by decide
  obtain ⟨hrefused, hlist⟩ := (hword 0x80000001).2.2 (by decide)
  obtain ⟨o, ho⟩ := (hnumber 0xff000001).2.1.mpr (by decide)
  exact ⟨⟨hmixed, (hflags mixedFlags).2 _ hmixed⟩, hrefused,
    hlist [0x03000005] [] (List.forall_mem_singleton.mpr ⟨_, hgood⟩),
    ho.trans (congrArg _ ((hnumber _).2.2 o ho)), hround repeatedDomain (by decide),
    ((hfirst repeatedDomain (3 : Fin 12)).1 _).mpr ⟨[], _, rfl, List.forall_mem_nil _⟩⟩

end DomainCapabilities

end RadioFrame
