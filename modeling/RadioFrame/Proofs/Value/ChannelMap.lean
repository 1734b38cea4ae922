import Mathlib.Algebra.Group.Nat.Defs
import Mathlib.Data.List.Basic
import RadioFrame.Proofs.Value.Bits
import RadioFrame.Value.ChannelMap

/-!
Maps of channels as sets.

A map has forty bits (`ChannelMap.bit`), and is known from them (`ChannelMap.eq_of_bit`); 37 of them
stand for channels, and the others may be set all the same.

* `ChannelMap.bit_ofChannels`: the map of a list has the bits of its data channels, and no other.
* `ChannelMap.bit_cleared`: without the bits that stand for no channel a map has the same channels,
  and it is the map of these (`ChannelMap.ofChannels_channels`).

A machine makes the map of a list one channel after the other, each time by one bit of one byte
(`ChannelMap.mark?`), and looks for a channel in the same way (`ChannelMap.contains?`). A byte that
the map does not have is not there to be changed, nor a bit that the byte does not have; but no
channel leads to one. Marking sets the bit of a channel (`ChannelMap.exists_mark`), and so a list of
channels is marked to its end (`ChannelMap.exists_marks`).

`ChannelMap.contains_ofChannels` puts these together.
-/

namespace RadioFrame.ChannelMap

/-! ### The bits of a map -/

/-- The bit at a place, from the lowest of the first byte on. -/
def bit (m : ChannelMap) (n : Nat) : Bool :=
  ((m.bytes.bytes[n / 8]?).getD 0).toNat.testBit (n % 8)

lemma contains_eq_bit (m : ChannelMap) (n : Nat) :
    m.contains n = (decide (n < dataChannels) && m.bit n) := rfl

/-- The bit at a place is one of the byte that is there. -/
lemma exists_byte (m : ChannelMap) {n : Nat} (h : n < 40) :
    ∃ byte, m.bytes.bytes[n / 8]? = some byte ∧ m.bit n = byte.toBitVec.getLsbD (n % 8) := by
  have hlt : n / 8 < m.bytes.bytes.length := by
    rw [m.bytes.length_eq]
    omega
  have hget := List.getElem?_eq_getElem hlt
  exact ⟨_, hget, by rw [bit, hget]; rfl⟩

lemma bit_of_le (m : ChannelMap) {n : Nat} (h : 40 ≤ n) : m.bit n = false := by
  have hnone : m.bytes.bytes[n / 8]? = none := by
    rw [List.getElem?_eq_none_iff, m.bytes.length_eq]
    omega
  rw [bit, hnone]
  exact Nat.zero_testBit _

/-- Maps are known from their bits. -/
lemma eq_of_bit {a b : ChannelMap} (h : ∀ n < 40, a.bit n = b.bit n) : a = b := by
  obtain ⟨⟨as, ha⟩⟩ := a
  obtain ⟨⟨bs, hb⟩⟩ := b
  suffices hbytes : as = bs by
    subst hbytes
    rfl
  refine List.ext_getElem (ha.trans hb.symm) fun i hi hi' => ?_
  refine UInt8.toBitVec_inj.mp (BitVec.eq_of_getLsbD_eq fun j hj => ?_)
  have hdiv : (8 * i + j) / 8 = i := by omega
  have hmod : (8 * i + j) % 8 = j := by omega
  have hbit := h (8 * i + j) (by omega)
  rwa [bit, bit, hdiv, hmod, List.getElem?_eq_getElem hi, List.getElem?_eq_getElem hi'] at hbit

/-! ### Maps made from predicates -/

lemma testBit_ofBits (bits : List Bool) (j : Nat) :
    (ofBits bits).testBit j = bits.getD j false := by
  induction bits generalizing j with
  | nil => simp [ofBits]
  | cons b bits ih =>
      have hb := Bool.toNat_le b
      rw [ofBits]
      cases j with
      | zero =>
          rw [Nat.testBit_zero, Nat.add_mul_mod_self_left, List.getD_cons_zero]
          cases b <;> rfl
      | succ j =>
          have hhalf : (b.toNat + 2 * ofBits bits) / 2 = ofBits bits := by omega
          rw [Nat.testBit_succ, hhalf, List.getD_cons_succ, ih]

lemma ofBits_lt (bits : List Bool) : ofBits bits < 2 ^ bits.length := by
  induction bits with
  | nil => decide
  | cons b bits ih =>
      have hb := Bool.toNat_le b
      rw [ofBits, List.length_cons, Nat.pow_succ]
      omega

lemma bit_ofPredicate (p : Nat → Bool) {n : Nat} (h : n < 40) : (ofPredicate p).bit n = p n := by
  have hlt : n / 8 < 5 := by omega
  have hmod : n % 8 < 8 := Nat.mod_lt _ (by decide)
  have hbits : ofBits ((List.range 8).map fun j => p (8 * (n / 8) + j)) < UInt8.size := by
    simpa using ofBits_lt ((List.range 8).map fun j => p (8 * (n / 8) + j))
  rw [bit, ofPredicate, List.getElem?_map, List.getElem?_range hlt, Option.map_some,
    Option.getD_some,
    UInt8.toNat_ofNat_of_lt' hbits, testBit_ofBits, List.getD_eq_getElem?_getD, List.getElem?_map,
    List.getElem?_range hmod, Option.map_some, Option.getD_some, Nat.div_add_mod]

/-- The bits of the map of a list are those of its data channels. -/
lemma bit_ofChannels (cs : List Nat) (n : Nat) :
    (ofChannels cs).bit n = (decide (n < dataChannels) && decide (n ∈ cs)) := by
  rw [ofChannels]
  by_cases h : n < 40
  · rw [bit_ofPredicate _ h, List.contains_eq_mem]
  · have hge : ¬n < dataChannels := fun hlt => h (Nat.lt_trans hlt (by decide))
    rw [bit_of_le _ (Nat.le_of_not_lt h), decide_eq_false hge, Bool.false_and]

/-! ### The channels of a map -/

lemma mem_channels {m : ChannelMap} {n : Nat} : n ∈ m.channels ↔ m.contains n := by
  rw [channels, List.mem_filter, List.mem_range, contains_eq_bit, Bool.and_eq_true,
    decide_eq_true_eq, and_iff_right_iff_imp]
  exact And.left

/-- The map without the bits that stand for no channel, the three highest of its last byte. -/
def cleared (m : ChannelMap) : ChannelMap :=
  ⟨⟨m.bytes.bytes.modify 4 (· &&& 0x1f), by rw [List.length_modify, m.bytes.length_eq]⟩⟩

/-- The other bits stand for channels, and stay. -/
lemma bit_cleared (m : ChannelMap) (n : Nat) : m.cleared.bit n = m.contains n := by
  rw [contains_eq_bit]
  by_cases h : n < 40
  · obtain ⟨byte, hbyte, hbit⟩ := m.exists_byte h
    rw [bit, cleared, List.getElem?_modify, hbyte, hbit, Option.map_eq_map, Option.map_some,
      Option.getD_some]
    by_cases hlast : 4 = n / 8
    · have hkept : n < dataChannels ↔ n % 8 < 5 := by
        rw [dataChannels]
        omega
      rw [if_pos hlast, UInt8.toNat_and, Nat.testBit_and, decide_eq_decide.mpr hkept, Bool.and_comm]
      exact congrArg (· && _) (Nat.testBit_two_pow_sub_one 5 (n % 8))
    · have hlt : n < dataChannels := by
        rw [dataChannels]
        omega
      rw [if_neg hlast, decide_eq_true hlt, Bool.true_and]
      rfl
  · rw [bit_of_le _ (Nat.le_of_not_lt h), bit_of_le _ (Nat.le_of_not_lt h), Bool.and_false]

/-- A map is that of its channels, but for the bits that stand for no channel. -/
lemma ofChannels_channels (m : ChannelMap) : ofChannels m.channels = m.cleared := by
  refine eq_of_bit fun n _ => ?_
  have hmem : decide (n ∈ m.channels) = m.contains n := by
    rw [Bool.eq_iff_iff, decide_eq_true_eq]
    exact mem_channels
  rw [bit_ofChannels, bit_cleared, hmem, contains_eq_bit, ← Bool.and_assoc, Bool.and_self]

/-! ### One channel after the other -/

/-- The map that has the bit of a channel as well, if there are such a byte and such a bit. -/
def mark? (m : ChannelMap) (c : UInt8) : Option ChannelMap := do
  let byte ← m.bytes.bytes[(c / 8).toNat]?
  let marked ← Bits.set? byte.toBitVec (c % 8).toNat
  some ⟨⟨m.bytes.bytes.set (c / 8).toNat ⟨marked⟩, by rw [List.length_set, m.bytes.length_eq]⟩⟩

/-- The map of the data channels in a list, made from the empty one by marking them in their order.
-/
def ofChannels? (cs : List UInt8) : Option ChannelMap := (cs.filter (· < 37)).foldlM mark? default

/-- Whether a channel is a data channel of the map, if a bit has to be looked at and is there. -/
def contains? (m : ChannelMap) (c : UInt8) : Option Bool :=
  if c < 37 then
    m.bytes.bytes[(c / 8).toNat]?.bind fun byte => Bits.test? byte.toBitVec (c % 8).toNat
  else some false

lemma toNat_place (c : UInt8) : (c / 8).toNat = c.toNat / 8 ∧ (c % 8).toNat = c.toNat % 8 :=
  ⟨UInt8.toNat_div c 8, UInt8.toNat_mod c 8⟩

lemma contains?_eq (m : ChannelMap) (c : UInt8) : m.contains? c = some (m.contains c.toNat) := by
  obtain ⟨hdiv, hmod⟩ := toNat_place c
  rw [contains?, contains_eq_bit, hdiv, hmod]
  split
  · next hlt =>
      have hlt : c.toNat < dataChannels := hlt
      obtain ⟨byte, hbyte, hbit⟩ := m.exists_byte (Nat.lt_trans hlt (by decide))
      rw [hbyte, Option.bind_some, Bits.test?_of_lt (Nat.mod_lt _ (by decide)), decide_eq_true hlt,
        Bool.true_and, hbit]
  · next hge =>
      have hge : ¬c.toNat < dataChannels := hge
      rw [decide_eq_false hge, Bool.false_and]

/-- One step: the bit of the channel is set, and every other stays as it is. -/
lemma exists_mark (m : ChannelMap) {c : UInt8} (h : c < 37) :
    ∃ marked, m.mark? c = some marked ∧
      ∀ n, marked.bit n = (m.bit n || decide (n = c.toNat)) := by
  obtain ⟨hdiv, hmod⟩ := toNat_place c
  have hlt : c.toNat < 37 := h
  obtain ⟨byte, hbyte, -⟩ := m.exists_byte (Nat.lt_trans hlt (by decide))
  obtain ⟨marked, hmarked, hbits⟩ :=
    Bits.exists_set byte.toBitVec (Nat.mod_lt c.toNat (show 0 < 8 by decide))
  simp only [mark?, hdiv, hmod, hbyte, hmarked, Option.bind_eq_bind, Option.bind_some]
  refine ⟨_, rfl, fun n => ?_⟩
  by_cases hplace : c.toNat / 8 = n / 8
  · have hsame : n = c.toNat ↔ n % 8 = c.toNat % 8 := by omega
    have hthere := (List.getElem?_eq_some_iff.mp hbyte).1
    rw [bit, bit, ← hplace, List.getElem?_set_self hthere, hbyte, decide_eq_decide.mpr hsame]
    exact hbits (n % 8)
  · have hne : n ≠ c.toNat := fun heq => hplace (by rw [heq])
    rw [bit, List.getElem?_set_ne hplace, decide_eq_false hne, Bool.or_false, bit]

/-- A run: the bits of all channels are set. -/
lemma exists_marks (cs : List UInt8) (h : ∀ c ∈ cs, c < 37) (m : ChannelMap) :
    ∃ marked, cs.foldlM mark? m = some marked ∧
      ∀ n, marked.bit n = (m.bit n || decide (n ∈ cs.map UInt8.toNat)) := by
  induction cs generalizing m with
  | nil => exact ⟨m, rfl, fun n => by simp⟩
  | cons c cs ih =>
      obtain ⟨hc, hcs⟩ := List.forall_mem_cons.mp h
      obtain ⟨first, hfirst, hbit⟩ := m.exists_mark hc
      obtain ⟨last, hlast, hbits⟩ := ih hcs first
      refine ⟨last, by rw [List.foldlM_cons, hfirst]; exact hlast, fun n => ?_⟩
      rw [hbits, hbit, Bool.or_assoc, List.map_cons]
      simp

lemma bit_default (n : Nat) : (default : ChannelMap).bit n = false := by
  by_cases h : n < 40
  · revert n
    decide
  · exact bit_of_le _ (Nat.le_of_not_lt h)

/-- Marking the channels of a list comes to the map of the list. -/
lemma ofChannels?_eq (cs : List UInt8) :
    ofChannels? cs = some (ofChannels (cs.map UInt8.toNat)) := by
  obtain ⟨marked, hmarked, hbits⟩ := exists_marks (cs.filter (· < 37))
    (fun c hc => by simpa using (List.mem_filter.mp hc).2) default
  rw [ofChannels?, hmarked]
  refine congrArg some (eq_of_bit fun n _ => ?_)
  rw [hbits, bit_default, bit_ofChannels, Bool.false_or, ← Bool.decide_and, decide_eq_decide]
  simp only [List.mem_map, List.mem_filter, decide_eq_true_eq]
  constructor
  · rintro ⟨c, ⟨hc, hlt⟩, rfl⟩
    exact ⟨hlt, c, hc, rfl⟩
  · rintro ⟨hlt, c, hc, rfl⟩
    exact ⟨c, ⟨hc, hlt⟩, rfl⟩

/-! ### Lists as sets -/

lemma toNat_mem_map {cs : List UInt8} {c : UInt8} : c.toNat ∈ cs.map UInt8.toNat ↔ c ∈ cs :=
  List.mem_map_of_injective fun _ _ => UInt8.toNat_inj.mp

/-- The map of a list has the data channels that occur in the list, at any place and any number of
times. -/
lemma contains_ofChannels_iff (cs : List UInt8) (c : UInt8) :
    (ofChannels (cs.map UInt8.toNat)).contains c.toNat ↔ c < 37 ∧ c ∈ cs := by
  rw [contains_eq_bit, bit_ofChannels, ← Bool.and_assoc, Bool.and_self, Bool.and_eq_true,
    decide_eq_true_eq, decide_eq_true_eq, toNat_mem_map]
  rfl

/-- Two lists have the same map just when the same data channels occur in them. -/
lemma ofChannels_eq_iff {cs ds : List UInt8} :
    ofChannels (cs.map UInt8.toNat) = ofChannels (ds.map UInt8.toNat) ↔
      ∀ c < 37, c ∈ cs ↔ c ∈ ds := by
  constructor
  · intro h c hc
    have hcs := contains_ofChannels_iff cs c
    rw [h, contains_ofChannels_iff, and_iff_right hc, and_iff_right hc] at hcs
    exact hcs.symm
  · intro h
    refine eq_of_bit fun n hn => ?_
    rw [bit_ofChannels, bit_ofChannels]
    by_cases hlt : n < dataChannels
    · have hvalue : (UInt8.ofNat n).toNat = n :=
          UInt8.toNat_ofNat_of_lt' (Nat.lt_trans hn (by decide))
      have hchannel : UInt8.ofNat n < 37 := UInt8.lt_iff_toNat_lt.mpr (hvalue.symm ▸ hlt)
      have hmem := h _ hchannel
      rw [← toNat_mem_map, ← toNat_mem_map, hvalue] at hmem
      rw [decide_eq_decide.mpr hmem]
    · rw [decide_eq_false hlt, Bool.false_and, Bool.false_and]

/-- A map of channels is a set of channels. The map of a list, which a machine makes by setting one
bit after the other without a byte or a shift that does not exist, has the data channels of the
list; its other bits are clear, and so it is the same for all lists in which the same data channels
occur. A map tells its channels in ascending order and their number, and is asked for any channel
without a byte or a shift that does not exist. Whatever bits it has, the map of its channels has the
same channels, and is the map itself without the bits that stand for none. -/
theorem contains_ofChannels :
    (∀ cs : List UInt8,
      ofChannels? cs = some (ofChannels (cs.map UInt8.toNat)) ∧
      (∀ c : UInt8, (ofChannels (cs.map UInt8.toNat)).contains c.toNat ↔ c < 37 ∧ c ∈ cs) ∧
      (∀ n ∈ [37, 38, 39], (ofChannels (cs.map UInt8.toNat)).bit n = false) ∧
      ∀ ds : List UInt8, ofChannels (cs.map UInt8.toNat) = ofChannels (ds.map UInt8.toNat) ↔
        ∀ c < 37, c ∈ cs ↔ c ∈ ds) ∧
    ∀ m : ChannelMap,
      (∀ c : UInt8, m.contains? c = some (m.contains c.toNat)) ∧
      m.channels.Pairwise (· < ·) ∧
      (∀ n, n ∈ m.channels ↔ m.contains n) ∧
      m.count = m.channels.length ∧
      (ofChannels m.channels).channels = m.channels ∧
      ofChannels m.channels = m.cleared := by
  refine ⟨fun cs => ⟨ofChannels?_eq cs, contains_ofChannels_iff cs, ?_,
    fun ds => ofChannels_eq_iff⟩,
    fun m => ⟨m.contains?_eq, List.pairwise_lt_range.filter _, fun n => mem_channels, rfl, ?_,
      m.ofChannels_channels⟩⟩
  · intro n hn
    have hge : ¬n < dataChannels := by
      revert n
      decide
    rw [bit_ofChannels, decide_eq_false hge, Bool.false_and]
  · have hsame : (ofChannels m.channels).contains = m.contains := by
      funext n
      rw [ofChannels_channels, contains_eq_bit, bit_cleared, contains_eq_bit, ← Bool.and_assoc,
        Bool.and_self]
    rw [channels, hsame, ← channels]

/-- Channels in no order, one of them twice, and two numbers that are no data channel. -/
def scattered : List UInt8 := [36, 255, 0, 9, 36, 40]

/-- Of scattered channels three count, and the map of them is that of the three in order. A map with
all of its bits set has all data channels, and their map lacks the three bits that stand for none.
-/
theorem contains_ofChannels_scattered :
    ofChannels? scattered = some ⟨⟨[0x01, 0x02, 0x00, 0x00, 0x10], rfl⟩⟩ ∧
      ofChannels (scattered.map UInt8.toNat) = ofChannels [0, 9, 36] ∧
      ¬(ofChannels (scattered.map UInt8.toNat)).contains 40 ∧
      ofChannels (channels ⟨.replicate 5 0xff⟩) = allDataChannels := by
  obtain ⟨hmarked, hcontains, -, hsame⟩ := contains_ofChannels.1 scattered
  have hcount : ∀ c < 37, c ∈ scattered ↔ c ∈ [0, 9, 36] := by
    intro c hc
    have hne : c ≠ 255 := fun h => absurd hc (h ▸ by decide)
    have hne' : c ≠ 40 := fun h => absurd hc (h ▸ by decide)
    simp only [scattered, List.mem_cons, List.not_mem_nil]
    grind
  exact ⟨hmarked.trans (congrArg some (by decide)), (hsame [0, 9, 36]).mpr hcount,
    fun h => absurd ((hcontains 40).mp h).1 (by decide),
    (contains_ofChannels.2 ⟨.replicate 5 0xff⟩).2.2.2.2.2.trans (by decide)⟩

end RadioFrame.ChannelMap
