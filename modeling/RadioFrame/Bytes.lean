/-!
Byte strings, and the one way a byte string can be too long.
-/

namespace RadioFrame

/-- A byte string. -/
abbrev Bytes := List UInt8

/-- More bytes than there is room for. -/
structure Overflow where
  /-- The number of bytes there are. -/
  length : Nat
  /-- The number of bytes there is room for. -/
  bound : Nat
  deriving DecidableEq, Repr

/-- The wording of an overflow. -/
def Overflow.message (o : Overflow) : String :=
  s!"payload of {o.length} bytes exceeds bound of {o.bound} bytes"

/-- The least number of bytes that hold a number below `2 ^ 64`: one for each power of 256 that it
reaches. -/
def byteWidth (n : Nat) : Nat := (List.range 8).countP fun i => Nat.pow 256 i ≤ n

end RadioFrame
