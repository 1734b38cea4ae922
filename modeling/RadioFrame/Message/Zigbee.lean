import RadioFrame.Catalogue.Zigbee

/-!
The address that an adapter takes in a ZigBee network.

A short address has 16 bits and an extended one 64. `SetNodeAddress.new` refuses a short address
that is wider; a refused one is told by the number of bytes that it needs.
-/

namespace RadioFrame

/-- Sets the adapter's own address. -/
abbrev SetNodeAddress : Type := Body Zigbee.setNodeAddress

namespace SetNodeAddress

/-- The word for a short address. -/
def shortAddress : addressType.Word := addressType.first

/-- The word for an extended address. -/
def extendedAddress : addressType.Word := ⟨1, by decide⟩

/-- The fields of the command. -/
def fields (address : UInt64) (width : addressType.Word) :
    Row Field.Value Zigbee.setNodeAddress.fields := (address, width, ())

/-- The command for an address of either width, unless it is too wide for a short one. -/
def new (address : UInt64) (width : addressType.Word) : Except Overflow SetNodeAddress :=
  (Body.ofRow Zigbee.setNodeAddress (fields address width)).mapError (·.2)

/-- The command for a short address, which is never too wide. -/
def short (address : UInt16) : SetNodeAddress where
  row := fields address.toUInt64 shortAddress
  lawful := by
    have h : address.toUInt64.toNat < UInt16.size := by
      have := address.toNat_lt
      simpa using this
    exact if_neg fun c => Nat.not_le_of_lt h c.2

/-- The command for an extended address, which has all 64 bits. -/
def extended (address : UInt64) : SetNodeAddress where
  row := fields address extendedAddress
  lawful := rfl

/-- The address. -/
def address (c : SetNodeAddress) : UInt64 := c.row.1

/-- Its width. -/
def width (c : SetNodeAddress) : addressType.Word := c.row.2.1

end SetNodeAddress

end RadioFrame
