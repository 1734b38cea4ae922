import RadioFrame.Bytes

/-!
Numbers in groups of seven bits, lowest group first, each byte but the last marked in its high bit.

A number has at most ten bytes and the tenth is at most 1, so what is read is below `2 ^ 64`. Longer
spellings than necessary are read; the shortest one is written.
-/

namespace RadioFrame.Wire.Varint

/-- The most bytes a number has. -/
def maxLength : Nat := 10

/-- The bytes of a number below `128 ^ (groups + 1)`: at most `groups` of them before the last. -/
def writeGroups : Nat → Nat → Bytes
  | 0, n => [UInt8.ofNat n]
  | groups + 1, n =>
      if n < 128 then [UInt8.ofNat n]
      else UInt8.ofNat (n % 128 + 128) :: writeGroups groups (n / 128)

/-- The shortest bytes of a number: one group for every seven of its bits. -/
def write (n : Nat) : Bytes := writeGroups (n.log2 / 7) n

/-- The number at the front of some bytes, when `groups` more bytes may belong to it, with the bytes
after it. -/
def readGroups? : Nat → Bytes → Option (Nat × Bytes)
  | 0, _ => none
  | _ + 1, [] => none
  | groups + 1, b :: rest =>
      if b.toNat < 128 then
        if groups = 0 ∧ 1 < b.toNat then none else some (b.toNat, rest)
      else
        (readGroups? groups rest).map fun (n, rest) => (b.toNat - 128 + 128 * n, rest)

/-- The number at the front of some bytes and the bytes after it. -/
def read? (bytes : Bytes) : Option (Nat × Bytes) := readGroups? maxLength bytes

end RadioFrame.Wire.Varint
