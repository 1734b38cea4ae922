import RadioFrame.Bytes

/-!
Byte strings of limited and of fixed length.

* `Payload n`: at most `n` bytes, the content of a packet, a pattern or an address field.
* `Block n`: exactly `n` bytes, a key or an initialisation vector.
* `Buffer n`: `n` cells filled from the front, the device with which payloads are assembled.

A payload never holds more than its bound: longer input is refused with its length, not cut.
-/

namespace RadioFrame

/-! ### Payloads -/

/-- At most `bound` bytes. -/
structure Payload (bound : Nat) where
  /-- The bytes. -/
  bytes : Bytes
  /-- There is room for all of them. -/
  length_le : bytes.length ≤ bound
  deriving DecidableEq

namespace Payload

variable {bound : Nat}

/-- The payload of no bytes. -/
def empty : Payload bound := ⟨[], Nat.zero_le _⟩

/-- The payload of given bytes, if there is room for them. -/
def ofBytes (bound : Nat) (bytes : Bytes) : Except Overflow (Payload bound) :=
  if h : bytes.length ≤ bound then .ok ⟨bytes, h⟩ else .error ⟨bytes.length, bound⟩

instance : Inhabited (Payload bound) := ⟨empty⟩

theorem ofBytes_bytes (p : Payload bound) : ofBytes bound p.bytes = .ok p := by
  simp [ofBytes, p.length_le]

theorem ofBytes_eq_ok_iff {bytes : Bytes} {p : Payload bound} :
    ofBytes bound bytes = .ok p ↔ p.bytes = bytes := by
  constructor
  · intro h
    unfold ofBytes at h
    split at h
    · cases h; rfl
    · cases h
  · rintro rfl
    exact ofBytes_bytes p

end Payload

/-! ### Blocks -/

/-- Exactly `length` bytes. -/
structure Block (length : Nat) where
  /-- The bytes. -/
  bytes : Bytes
  /-- There are as many as stated. -/
  length_eq : bytes.length = length
  deriving DecidableEq

namespace Block

variable {length : Nat}

/-- The block whose bytes are all equal. -/
def replicate (length : Nat) (byte : UInt8) : Block length := ⟨List.replicate length byte, by simp⟩

/-- The block of given bytes, if they have its length. -/
def ofBytes? (length : Nat) (bytes : Bytes) : Option (Block length) :=
  if h : bytes.length = length then some ⟨bytes, h⟩ else none

/-- The block read backwards. -/
def reverse (b : Block length) : Block length := ⟨b.bytes.reverse, by simp [b.length_eq]⟩

instance : Inhabited (Block length) := ⟨replicate length 0⟩

theorem ofBytes?_eq_some_iff {bytes : Bytes} {b : Block length} :
    ofBytes? length bytes = some b ↔ b.bytes = bytes := by
  constructor
  · intro h
    unfold ofBytes? at h
    split at h
    · cases h; rfl
    · cases h
  · rintro rfl
    exact dif_pos b.length_eq

@[simp] theorem reverse_reverse (b : Block length) : b.reverse.reverse = b := by
  simp [reverse]

end Block

/-! ### Buffers -/

/-- A row of `capacity` cells of which the first `used` hold the content. -/
structure Buffer (capacity : Nat) where
  /-- All cells. -/
  cells : Bytes
  /-- How many of them are in use. -/
  used : Nat
  /-- There are as many cells as stated. -/
  length_cells : cells.length = capacity
  /-- The cells in use exist. -/
  used_le : used ≤ capacity

namespace Buffer

variable {capacity : Nat}

/-- The content: the cells in use. -/
def content (b : Buffer capacity) : Bytes := b.cells.take b.used

/-- The cells not in use. -/
def spare (b : Buffer capacity) : Bytes := b.cells.drop b.used

/-- No cell in use. -/
def empty (capacity : Nat) : Buffer capacity :=
  ⟨List.replicate capacity 0, 0, by simp, Nat.zero_le _⟩

/-- Every cell in use. -/
def full (cells : Block capacity) : Buffer capacity :=
  ⟨cells.bytes, capacity, cells.length_eq, Nat.le_refl _⟩

/-- Clears every cell. -/
def reset (_ : Buffer capacity) : Buffer capacity := empty capacity

/-- Appends bytes after the cells in use, and tells how many. Without room for all of them nothing
is written, and the error carries the length that would have resulted. -/
def write (b : Buffer capacity) (bytes : Bytes) : Except Overflow (Nat × Buffer capacity) :=
  if bytes = [] then .ok (0, b)
  else if h : b.used + bytes.length ≤ capacity then
    let written : Buffer capacity :=
      { cells := b.cells.take b.used ++ bytes ++ b.cells.drop (b.used + bytes.length)
        used := b.used + bytes.length
        length_cells := by
          have := b.length_cells
          simp only [List.length_append, List.length_take, List.length_drop]
          omega
        used_le := h }
    .ok (bytes.length, written)
  else .error ⟨b.used + bytes.length, capacity⟩

/-- A buffer that holds given bytes, written into an empty one. -/
def ofBytes (capacity : Nat) (bytes : Bytes) : Except Overflow (Buffer capacity) := do
  let (_, written) ← (empty capacity).write bytes
  .ok written

/-- Buffers are equal when their contents are: what the spare cells hold does not count. -/
instance : BEq (Buffer capacity) := ⟨fun a b => a.content == b.content⟩

theorem length_content (b : Buffer capacity) : b.content.length = b.used := by
  have h₁ := b.length_cells
  have h₂ := b.used_le
  simp only [content, List.length_take]
  omega

/-- What a buffer holds, as a payload. -/
def toPayload (b : Buffer capacity) : Payload capacity :=
  ⟨b.content, by rw [length_content]; exact b.used_le⟩

/-- The buffer that holds a payload, its other cells clear. -/
def ofPayload (p : Payload capacity) : Buffer capacity :=
  { cells := p.bytes ++ List.replicate (capacity - p.bytes.length) 0
    used := p.bytes.length
    length_cells := by
      have := p.length_le
      simp only [List.length_append, List.length_replicate]
      omega
    used_le := p.length_le }

end Buffer

end RadioFrame
