import Mathlib.Data.Nat.BitIndices
import RadioFrame.Message.Adapter
import RadioFrame.Proofs.Value.Bits

/-!
The commands that an adapter supports in a domain.

The mask of the commands is a number of 64 bits, and the tags of the commands are the places of its
ones (`DomainResp.supportedTags_eq_bitIndices`). So either is known from the other: the mask is the
sum of the powers of two of the tags, and all ascending lists of tags below 64 are lists of tags of
one mask (`DomainResp.exists_mask`). A machine looks at the bit of a tag after it has seen that the
mask has such a bit, and never asks for another (`DomainResp.supports?_eq`).

`DomainResp.supports_supportedTags` puts these together.
-/

namespace RadioFrame.DomainResp

/-! ### The bit of a tag -/

/-- Whether the command of a tag is supported, if no bit has to be looked at or it is there. -/
def supports? (r : DomainResp) (tag : UInt32) : Option Bool :=
  if tag < 64 then Bits.test? r.supportedCommands.toBitVec tag.toNat else some false

lemma supports?_eq (r : DomainResp) (tag : UInt32) :
    r.supports? tag = some (r.supports tag.toNat) := by
  rw [supports?, supports]
  split
  · next hlt =>
      have hlt : tag.toNat < 64 := hlt
      rw [Bits.test?_of_lt hlt, decide_eq_true hlt, Bool.true_and]
      rfl
  · next hge =>
      have hge : ¬tag.toNat < 64 := hge
      rw [decide_eq_false hge, Bool.false_and]

/-- No bit of the mask is beyond its 64 places. -/
lemma supports_eq_testBit (r : DomainResp) (tag : Nat) :
    r.supports tag = r.supportedCommands.toNat.testBit tag := by
  rw [supports, Bool.and_eq_right_iff_imp]
  intro hbit
  rw [decide_eq_true_eq]
  exact (Nat.pow_lt_pow_iff_right (by decide)).mp
    (Nat.lt_of_le_of_lt (Nat.ge_two_pow_of_testBit hbit) r.supportedCommands.toNat_lt)

/-! ### All tags -/

lemma mem_supportedTags {r : DomainResp} {tag : Nat} : tag ∈ r.supportedTags ↔ r.supports tag := by
  rw [supportedTags, List.mem_filter, List.mem_range, and_iff_right_iff_imp, supports,
    Bool.and_eq_true, decide_eq_true_eq]
  exact And.left

lemma sortedLT_supportedTags (r : DomainResp) : r.supportedTags.SortedLT :=
  (List.pairwise_lt_range.filter _).sortedLT

/-- The tags are the places of the ones in the mask. -/
lemma supportedTags_eq_bitIndices (r : DomainResp) :
    r.supportedTags = r.supportedCommands.toNat.bitIndices :=
  r.sortedLT_supportedTags.eq_of_mem_iff Nat.bitIndices_sorted fun tag => by
    rw [mem_supportedTags, supports_eq_testBit, Nat.mem_bitIndices]

/-- The mask is known from the tags. -/
lemma sum_supportedTags (r : DomainResp) :
    (r.supportedTags.map fun tag => 2 ^ tag).sum = r.supportedCommands.toNat := by
  rw [supportedTags_eq_bitIndices, Nat.sum_map_two_pow_bitIndices]

/-- The answer for a domain with a given mask. -/
def ofMask (domain : radioDomain.Word) (mask : UInt64) : DomainResp := ⟨(domain, mask, ()), rfl⟩

/-- Any ascending list of tags that have a bit is the list of a mask. -/
lemma exists_mask {tags : List Nat} (hsorted : tags.SortedLT) (hlt : ∀ tag ∈ tags, tag < 64) :
    ∃ mask, ∀ domain, (ofMask domain mask).supportedTags = tags := by
  have hbits := Nat.bitIndices_sum_map_two_pow hsorted
  have hsum : (tags.map fun tag => 2 ^ tag).sum < UInt64.size := by
    refine Nat.lt_pow_two_of_testBit (n := 64) _ fun tag hge => ?_
    rw [← Bool.not_eq_true, ← Nat.mem_bitIndices, hbits]
    exact fun hmem => absurd (hlt tag hmem) (Nat.not_lt.mpr hge)
  refine ⟨UInt64.ofNat (tags.map fun tag => 2 ^ tag).sum, fun domain => ?_⟩
  rw [supportedTags_eq_bitIndices]
  change (UInt64.ofNat _).toNat.bitIndices = tags
  rw [UInt64.toNat_ofNat_of_lt' hsum, hbits]

/-- The mask of supported commands and the list of their tags determine each other. A tag is
supported just when the mask has a bit for it and the bit is set, which a machine finds out for
every tag without a shift that does not exist. The list has the supported tags in ascending order,
and the sum of their powers of two is the mask; so two lists are the same just when the masks are,
and every ascending list of tags below 64 is that of a mask. -/
theorem supports_supportedTags :
    (∀ r : DomainResp,
      (∀ tag : UInt32,
        (r.supports tag.toNat ↔ tag < 64 ∧ r.supportedCommands.toNat.testBit tag.toNat) ∧
        r.supports? tag = some (r.supports tag.toNat)) ∧
      r.supportedTags.Pairwise (· < ·) ∧
      (∀ tag, tag ∈ r.supportedTags ↔ r.supports tag) ∧
      (r.supportedTags.map fun tag => 2 ^ tag).sum = r.supportedCommands.toNat) ∧
    (∀ r s : DomainResp,
      r.supportedTags = s.supportedTags ↔ r.supportedCommands = s.supportedCommands) ∧
    ∀ tags : List Nat, tags.Pairwise (· < ·) → (∀ tag ∈ tags, tag < 64) →
      ∃ mask, ∀ domain, (ofMask domain mask).supportedTags = tags := by
  refine ⟨fun r => ⟨fun tag => ⟨?_, r.supports?_eq tag⟩, r.sortedLT_supportedTags.pairwise,
    fun tag => mem_supportedTags, r.sum_supportedTags⟩, fun r s => ?_,
    fun tags hsorted => exists_mask hsorted.sortedLT⟩
  · rw [supports, Bool.and_eq_true, decide_eq_true_eq]
    rfl
  · constructor
    · intro h
      rw [← UInt64.toNat_inj, ← sum_supportedTags, ← sum_supportedTags, h]
    · intro h
      rw [supportedTags_eq_bitIndices, supportedTags_eq_bitIndices, h]

/-- The mask of three commands, one of them with the highest bit. The next tag has no bit, and is
not supported. -/
theorem supports_supportedTags_highest :
    ∃ mask, (∀ domain, (ofMask domain mask).supportedTags = [2, 19, 63]) ∧
      mask = 0x8000000000080004 ∧
      (ofMask radioDomain.first mask).supports? 63 = some true ∧
      (ofMask radioDomain.first mask).supports? 64 = some false := by
  obtain ⟨hmask, -, hlist⟩ := supports_supportedTags
  obtain ⟨mask, htags⟩ := hlist [2, 19, 63] (by decide) (by decide)
  obtain ⟨htag, -, -, hsum⟩ := hmask (ofMask radioDomain.first mask)
  rw [htags] at hsum
  obtain rfl : mask = 0x8000000000080004 := UInt64.toNat_inj.mp hsum.symm
  exact ⟨_, htags, rfl, (htag 63).2.trans (by decide), (htag 64).2.trans (by decide)⟩

end RadioFrame.DomainResp
