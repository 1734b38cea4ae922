import RadioFrame.Text.Hex
import RadioFrame.Value.Payload

/-!
The 48-bit address of a Bluetooth device.

An address is kept in the order in which it is shown, `11:22:33:44:55:66`; on the wire its bytes
stand in the opposite order, the least significant first.
-/

namespace RadioFrame

/-- A 48-bit device address, in the order in which it is shown. -/
structure BdAddress where
  /-- The six octets. -/
  octets : Block 6
  deriving DecidableEq

namespace BdAddress

instance : Inhabited BdAddress := ⟨⟨default⟩⟩

/-- The address that matches any device when it is used as a filter. -/
def any : BdAddress := ⟨Block.replicate 6 255⟩

/-- The octets in the order of the wire. -/
def toWire (a : BdAddress) : Bytes := a.octets.reverse.bytes

/-- The address whose octets stand in the order of the wire, if there are six. -/
def ofWire? (bytes : Bytes) : Option BdAddress :=
  (Block.ofBytes? 6 bytes).map fun octets => ⟨octets.reverse⟩

/-- The shown form: two lower-case digits an octet, with colons between. -/
def toText (a : BdAddress) : List Char :=
  [':'].intercalate (a.octets.bytes.map Hex.encodeByte)

/-- The octet written by one group: two digits, or a plus sign and one digit. -/
def octet? : List Char → Option UInt8
  | ['+', b] => (Hex.digitValue? b).map UInt8.ofNat
  | [a, b] => do
      let high ← Hex.digitValue? a
      let low ← Hex.digitValue? b
      some (UInt8.ofNat (16 * high + low))
  | _ => none

/-- The address that text shows: six groups with colons between. -/
def ofText? (text : List Char) : Option BdAddress := do
  let octets ← (Text.splitOn ':' text).mapM octet?
  let block ← Block.ofBytes? 6 octets
  some ⟨block⟩

/-- Addresses are ordered as the numbers that their octets show. -/
instance : LE BdAddress := ⟨fun a b => a.octets.bytes ≤ b.octets.bytes⟩

instance (a b : BdAddress) : Decidable (a ≤ b) :=
  inferInstanceAs (Decidable (a.octets.bytes ≤ b.octets.bytes))

end BdAddress

/-- Text that shows no device address. -/
structure AddressFault where
  /-- The text. -/
  text : String
  deriving DecidableEq, Repr

/-- The wording of the fault. -/
def AddressFault.message (f : AddressFault) : String := s!"invalid device address '{f.text}'"

end RadioFrame
