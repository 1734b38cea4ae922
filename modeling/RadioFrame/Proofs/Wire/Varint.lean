import Mathlib.Algebra.Group.Nat.Defs
import Mathlib.Tactic.Lemma
import RadioFrame.Wire.Varint

/-!
Numbers in groups of seven bits, told without the readers.

* `Groups`: the bytes that make a number, however long they are. They are told from what follows
  them (`Groups.eq_of_append`), since only the last byte is not marked.
* `Groups.readGroups?`, `exists_groups`: groups are what is read, as long as there are not too many
  and the number is not too great.
* `groups_write`: what is written of a number are groups that make it, and no others are shorter
  (`Groups.length_write_le`). So it is read back, whatever follows, if it has 64 bits
  (`read?_write`).
-/

namespace RadioFrame.Wire.Varint

/-! ### Groups -/

/-- Bytes in groups of seven bits, the lowest first and all but the last marked in the high bit, and
the number that they make. -/
inductive Groups : Bytes → Nat → Prop
  /-- A byte without the mark is the last one. -/
  | last {b : UInt8} (h : b.toNat < 128) : Groups [b] b.toNat
  /-- A marked byte stands before the higher groups. -/
  | marked {b : UInt8} {w : Bytes} {n : Nat} (h : 128 ≤ b.toNat) (hw : Groups w n) :
      Groups (b :: w) (b.toNat - 128 + 128 * n)

lemma Groups.length_pos {w : Bytes} {n : Nat} (h : Groups w n) : 0 < w.length := by
  cases h with
  | last _ | marked _ _ => exact Nat.succ_pos _

/-- Groups are read if there are not too many of them and they do not make too great a number. -/
lemma Groups.readGroups? {w : Bytes} {n : Nat} (h : Groups w n) (rest : Bytes) :
    ∀ groups, w.length ≤ groups + 1 → n < 2 * 128 ^ groups →
      Varint.readGroups? (groups + 1) (w ++ rest) = some (n, rest) := by
  induction h with
  | @last b hb =>
      intro groups _ hn
      have hlast : ¬(groups = 0 ∧ 1 < b.toNat) := by
        rintro ⟨rfl, h1⟩
        rw [Nat.pow_zero] at hn
        omega
      rw [List.singleton_append, Varint.readGroups?, if_pos hb, if_neg hlast]
  | @marked b w n hb hw ih =>
      intro groups hlen hn
      have hpos := hw.length_pos
      rw [List.length_cons] at hlen
      obtain ⟨left, rfl⟩ : ∃ left, groups = left + 1 := ⟨groups - 1, by omega⟩
      rw [Nat.pow_succ] at hn
      rw [List.cons_append, Varint.readGroups?, if_neg (by omega),
        ih left (by omega) (by omega), Option.map_some]

/-- What is read are groups. -/
lemma exists_groups : ∀ {groups : Nat} {bytes rest : Bytes} {n : Nat},
    readGroups? (groups + 1) bytes = some (n, rest) →
      ∃ w, bytes = w ++ rest ∧ Groups w n ∧ w.length ≤ groups + 1 ∧ n < 2 * 128 ^ groups
  | _, [], _, _, h => by simp [readGroups?] at h
  | groups, b :: bytes, rest, n, h => by
      have hpow : 0 < 128 ^ (groups - 1) := Nat.pow_pos (by decide)
      rw [readGroups?] at h
      split at h
      · next hb =>
          split at h
          · cases h
          · next hlast =>
              cases h
              refine ⟨[b], rfl, .last hb, Nat.succ_le_succ (Nat.zero_le _), ?_⟩
              cases groups with
              | zero =>
                  rw [Nat.pow_zero]
                  omega
              | succ groups =>
                  rw [Nat.add_sub_cancel] at hpow
                  rw [Nat.pow_succ]
                  omega
      · next hb =>
          obtain ⟨⟨m, r⟩, hm, heq⟩ := Option.map_eq_some_iff.mp h
          cases heq
          cases groups with
          | zero => simp [readGroups?] at hm
          | succ groups =>
              obtain ⟨w, rfl, hw, hlen, hlt⟩ := exists_groups hm
              have hbyte := b.toNat_lt
              refine ⟨b :: w, rfl, .marked (by omega) hw, Nat.succ_le_succ hlen, ?_⟩
              rw [Nat.pow_succ]
              omega

/-- Groups at the front of the same bytes are the same: only the last of them is not marked. -/
lemma Groups.eq_of_append {w w' : Bytes} {n n' : Nat} (h : Groups w n) (h' : Groups w' n') :
    ∀ {bytes bytes' : Bytes}, w ++ bytes = w' ++ bytes' → n = n' ∧ bytes = bytes' := by
  induction h generalizing w' n' with
  | last hb =>
      intro bytes bytes' heq
      cases h' with
      | last _ =>
          cases heq
          exact ⟨rfl, rfl⟩
      | marked hb' _ =>
          cases heq
          omega
  | marked hb _ ih =>
      intro bytes bytes' heq
      cases h' with
      | last hb' =>
          cases heq
          omega
      | marked _ hw' =>
          rw [List.cons_append, List.cons_append] at heq
          obtain ⟨rfl, hrest⟩ := List.cons.inj heq
          obtain ⟨rfl, rfl⟩ := ih hw' hrest
          exact ⟨rfl, rfl⟩

/-! ### Numbers that are written -/

/-- There is room for a number in as many groups as are written of it. -/
lemma lt_pow_log2 (n : Nat) : n < 128 ^ (n.log2 / 7 + 1) := by
  have h : n < 2 ^ (n.log2 + 1) := Nat.lt_log2_self
  have hle : n.log2 + 1 ≤ 7 * (n.log2 / 7 + 1) := by omega
  rw [show 128 = 2 ^ 7 from rfl, ← Nat.pow_mul]
  exact Nat.lt_of_lt_of_le h (Nat.pow_le_pow_right (by decide) hle)

/-- A byte without the mark is a number. -/
lemma groups_single {n : Nat} (h : n < 128) : Groups [UInt8.ofNat n] n := by
  have hb : (UInt8.ofNat n).toNat = n := by
    rw [UInt8.toNat_ofNat']
    omega
  have hgroups := Groups.last (b := UInt8.ofNat n) (by omega)
  rwa [hb] at hgroups

/-- What is written in some groups are groups, if they hold the number. -/
lemma groups_writeGroups : ∀ (written n : Nat), n < 128 ^ (written + 1) →
    Groups (writeGroups written n) n
  | 0, n, h => groups_single (by simpa using h)
  | written + 1, n, h => by
      rw [writeGroups]
      split
      · next hn => exact groups_single hn
      · next hn =>
          have hb : (UInt8.ofNat (n % 128 + 128)).toNat = n % 128 + 128 := by
            rw [UInt8.toNat_ofNat']
            omega
          have hrest : n / 128 < 128 ^ (written + 1) := by
            rw [Nat.pow_succ] at h
            omega
          have hmarked : 128 ≤ (UInt8.ofNat (n % 128 + 128)).toNat := by omega
          have hgroups := Groups.marked hmarked (groups_writeGroups written (n / 128) hrest)
          rwa [hb, show n % 128 + 128 - 128 + 128 * (n / 128) = n by omega] at hgroups

/-- A number of any size is written in groups. -/
lemma groups_write (n : Nat) : Groups (write n) n := groups_writeGroups _ n (lt_pow_log2 n)

/-- A number is written in no more groups than there is room for. -/
lemma length_writeGroups_le : ∀ {written groups n : Nat}, n < 128 ^ (groups + 1) →
    (writeGroups written n).length ≤ groups + 1
  | 0, _, _, _ => Nat.succ_le_succ (Nat.zero_le _)
  | written + 1, groups, n, h => by
      rw [writeGroups]
      split
      · exact Nat.succ_le_succ (Nat.zero_le _)
      · next hn =>
          obtain ⟨left, rfl⟩ : ∃ left, groups = left + 1 := by
            cases groups with
            | zero => exact absurd h (by omega)
            | succ left => exact ⟨left, rfl⟩
          have hrest : n / 128 < 128 ^ (left + 1) := by
            rw [Nat.pow_succ] at h
            omega
          exact Nat.succ_le_succ (length_writeGroups_le hrest)

/-- Groups make no greater number than there is room for. -/
lemma Groups.lt_pow {w : Bytes} {n : Nat} (h : Groups w n) : n < 128 ^ w.length := by
  induction h with
  | last hb => exact hb
  | @marked b w n _ _ ih =>
      have hbyte := b.toNat_lt
      rw [List.length_cons, Nat.pow_succ]
      omega

/-- No groups that make a number are shorter than those that are written. -/
lemma Groups.length_write_le {w : Bytes} {n : Nat} (h : Groups w n) :
    (write n).length ≤ w.length := by
  have hlt := h.lt_pow
  obtain ⟨left, hleft⟩ : ∃ left, w.length = left + 1 :=
    ⟨w.length - 1, by have := h.length_pos; omega⟩
  rw [hleft] at hlt ⊢
  exact length_writeGroups_le hlt

/-- A number below `2 ^ 64` is read back from what is written, whatever follows. -/
lemma read?_write {n : Nat} (h : n < 2 ^ 64) (rest : Bytes) :
    read? (write n ++ rest) = some (n, rest) := by
  have hroom : n < 2 * 128 ^ 9 := h
  have hlength : (write n).length ≤ 9 + 1 := length_writeGroups_le (by omega)
  exact (groups_write n).readGroups? rest 9 hlength hroom

end RadioFrame.Wire.Varint
