import RadioFrame.Proofs.Outcome
import RadioFrame.Proofs.Wire.Varint
import RadioFrame.Wire.Scalar

/-!
Reading back the pieces of a record: numbers, keys, sized byte strings and simple values.

Every piece that is written is read back whatever follows it, and what follows is left. Numbers and
lengths have to be below `2 ^ 64`; the tag of a key has to fit its 32 bits.

* `readNumber_write`, `readKey_writeKey`, `readSized_writeSized`: the three kinds of piece;
* `Scalar.readValue_write`: simple values. For signed numbers this is `Scalar.ofLow32_signExtended`,
  the low 32 bits of a sign extension being the number that was extended.
-/

namespace RadioFrame.Wire

/-! ### Numbers, keys and byte strings -/

/-- A number is read back, whatever follows. -/
lemma readNumber_write {n : Nat} (h : n < 2 ^ 64) (rest : Bytes) :
    readNumber (Varint.write n ++ rest) = .ok (n, rest) := by
  rw [readNumber, Varint.read?_write h]

/-- A number has at least one byte. -/
lemma write_ne_nil (n : Nat) : Varint.write n ≠ [] := by
  rw [Varint.write]
  cases n.log2 / 7 with
  | zero => simp [Varint.writeGroups]
  | succ groups =>
      rw [Varint.writeGroups]
      split <;> simp

lemma ofCode?_code (w : WireType) : WireType.ofCode? w.code = some w := by
  cases w <;> rfl

lemma code_lt (w : WireType) : w.code < 8 := by
  cases w <;> decide

/-- A key is read back, whatever follows. -/
lemma readKey_writeKey {tag : Nat} (h : ValidTag tag) (wireType : WireType) (rest : Bytes) :
    readKey (writeKey tag wireType ++ rest) = .ok (⟨tag, wireType⟩, rest) := by
  obtain ⟨hpos, hlt⟩ := h
  have hcode := code_lt wireType
  have hmod : (8 * tag + wireType.code) % 8 = wireType.code := by omega
  have hdiv : (8 * tag + wireType.code) / 8 = tag := by omega
  have hsize : 8 * tag + wireType.code < UInt32.size := by
    change _ < 4294967296
    omega
  rw [readKey, writeKey, readNumber_write (by omega), ok_bind]
  dsimp only
  rw [if_neg (Nat.not_le_of_lt hsize), hmod, ofCode?_code, hdiv]
  dsimp only
  rw [if_neg (by omega)]

/-- As many bytes as there are in front are read. -/
lemma readRun_append (bytes rest : Bytes) :
    readRun bytes.length (bytes ++ rest) = .ok (bytes, rest) := by
  have hle : bytes.length ≤ (bytes ++ rest).length := by simp
  rw [readRun, if_pos hle, List.take_left, List.drop_left]

/-- A sized byte string is read back, whatever follows. -/
lemma readSized_writeSized {bytes : Bytes} (h : bytes.length < 2 ^ 64) (rest : Bytes) :
    readSized (writeSized bytes ++ rest) = .ok (bytes, rest) := by
  rw [readSized, writeSized, List.append_assoc, readNumber_write h, ok_bind]
  exact readRun_append bytes rest

lemma length_le_writeSized (bytes : Bytes) : bytes.length ≤ (writeSized bytes).length := by
  rw [writeSized, List.length_append]
  omega

/-! ### Simple values -/

namespace Scalar

/-- The low 32 bits of a sign extension are the number that was extended. -/
lemma ofLow32_signExtended (n : Int32) : ofLow32 (signExtended n) = n := by
  have hbits : BitVec.ofNat 32 (n.toBitVec.signExtend 64).toNat = n.toBitVec := by
    apply BitVec.eq_of_toNat_eq
    have hlt := n.toBitVec.isLt
    rw [BitVec.toNat_ofNat, BitVec.toNat_signExtend]
    split <;> simp only [BitVec.toNat_setWidth] <;> omega
  change Int32.ofBitVec (BitVec.ofNat 32 (signExtended n)) = n
  rw [signExtended, hbits, Int32.ofBitVec_toBitVec]

lemma signExtended_lt (n : Int32) : signExtended n < 2 ^ 64 :=
  (n.toBitVec.signExtend 64).isLt

/-- A simple value is read back, whatever follows. -/
theorem readValue_write (s : Scalar) (v : s.Value) (h : (s.write v).length < 2 ^ 64)
    (rest : Bytes) : s.readValue (s.write v ++ rest) = .ok (v, rest) := by
  cases s with
  | uint32 =>
      have hlt : (v : UInt32).toNat < 2 ^ 64 := by
        have := UInt32.toNat_lt v
        omega
      rw [write, readValue, readNumber_write hlt, ok_bind]
      exact congrArg (fun n : UInt32 => Except.ok (n, rest)) UInt32.ofNat_toNat
  | uint64 =>
      rw [write, readValue, readNumber_write (UInt64.toNat_lt v), ok_bind]
      exact congrArg (fun n : UInt64 => Except.ok (n, rest)) UInt64.ofNat_toNat
  | int32 =>
      rw [write, readValue, readNumber_write (signExtended_lt v), ok_bind]
      exact congrArg (fun n : Int32 => Except.ok (n, rest)) (ofLow32_signExtended v)
  | bool =>
      have hlt : (v : Bool).toNat < 2 ^ 64 := by
        have := Bool.toNat_lt v
        omega
      rw [write, readValue, readNumber_write hlt, ok_bind]
      cases (v : Bool) <;> rfl
  | bytes =>
      have hle := length_le_writeSized (v : Bytes)
      exact readSized_writeSized (Nat.lt_of_le_of_lt hle h) rest

/-- A simple value is read back under the layout of its type. -/
lemma read_write (s : Scalar) (v : s.Value) (h : (s.write v).length < 2 ^ 64) (rest : Bytes) :
    s.read s.wireType (s.write v ++ rest) = .ok (v, rest) := by
  rw [read, expect, if_pos rfl, ok_bind]
  exact readValue_write s v h rest

/-- A simple value has at least one byte. -/
lemma write_value_ne_nil (s : Scalar) (v : s.Value) : s.write v ≠ [] := by
  cases s with
  | bytes =>
      exact List.append_ne_nil_of_left_ne_nil (write_ne_nil _) (v : Bytes)
  | uint32 | uint64 | int32 | bool => exact write_ne_nil _

end Scalar

end RadioFrame.Wire
