import RadioFrame.Schema.Text

/-!
The forms of a buffer: two for reading, the one of JSON, and a compact one.

The compact form is for stores that no person reads: the number of bytes, in eight bytes with the
least significant first, and then the bytes. When it is read, the bytes come in one piece or one by
one; a piece that is too long is refused whole, and of single bytes the first that finds no room.
-/

namespace RadioFrame.Buffer

open Json (Reader)

variable {capacity : Nat}

/-- The content for readers. -/
def shown (b : Buffer capacity) : String := s!"[ 0x{String.ofList (Hex.encode b.content)} ]"

/-- The content and the capacity, for those who look for mistakes. -/
def described (b : Buffer capacity) : String :=
  s!"BoundedPayload<{capacity}>({String.ofList (Hex.encode b.content)})"

/-- The content as JSON. -/
def toJson (b : Buffer capacity) : Json.Value := b.toPayload.toJson

/-- Reads a buffer. -/
def reader (capacity : Nat) : Reader (Buffer capacity) :=
  (Payload.reader capacity).andThen fun p => .ok (ofPayload p)

/-! ### The compact form -/

/-- The bytes of a number below `2 ^ (8 * count)`, the least significant first. -/
def littleEndian (n : Nat) : (count : Nat) → Bytes
  | 0 => []
  | count + 1 => UInt8.ofNat (n % 256) :: littleEndian (n / 256) count

/-- The compact form. -/
def toCompact (b : Buffer capacity) : Bytes := littleEndian b.used 8 ++ b.content

/-- The buffer whose content came in one piece. -/
def ofPiece (capacity : Nat) (bytes : Bytes) : Except Json.Complaint (Buffer capacity) :=
  (ofBytes capacity bytes).mapError .overflow

/-- Reads a buffer whose content comes byte by byte. -/
def sequenceReader (capacity : Nat) : Reader (Buffer capacity) :=
  Json.Reader.fold Json.Reader.byte
    (fun b byte => do
      let (_, written) ← (b.write [byte]).mapError .overflow
      .ok written) (empty capacity)

end RadioFrame.Buffer
