import RadioFrame.Value.Payload

/-!
The set of Bluetooth data channels in use, as a map of bits.

Channel `8 * i + j` is bit `j` of byte `i`. There are 37 data channels, 0 to 36; the three highest
bits of the last byte name no channel, and a map may hold them all the same.
-/

namespace RadioFrame

/-- A map of channels, five bytes of bits. -/
structure ChannelMap where
  /-- The bytes, channel 0 in the lowest bit of the first. -/
  bytes : Block 5
  deriving DecidableEq

namespace ChannelMap

instance : Inhabited ChannelMap := ⟨⟨default⟩⟩

/-- How many data channels there are. -/
def dataChannels : Nat := 37

/-- The number whose bits, lowest first, are given. -/
def ofBits : List Bool → Nat
  | [] => 0
  | b :: bs => b.toNat + 2 * ofBits bs

/-- The map whose bit `n` is `p n`. -/
def ofPredicate (p : Nat → Bool) : ChannelMap :=
  ⟨⟨(List.range 5).map fun i => UInt8.ofNat (ofBits ((List.range 8).map fun j => p (8 * i + j))),
    by simp⟩⟩

/-- The map of the data channels in a list; other numbers are passed over. -/
def ofChannels (channels : List Nat) : ChannelMap :=
  ofPredicate fun n => decide (n < dataChannels) && channels.contains n

/-- The map of all data channels. -/
def allDataChannels : ChannelMap := ⟨⟨[255, 255, 255, 255, 31], rfl⟩⟩

/-- Whether a number is a data channel of the map. -/
def contains (m : ChannelMap) (channel : Nat) : Bool :=
  decide (channel < dataChannels) &&
    ((m.bytes.bytes[channel / 8]?).getD 0).toNat.testBit (channel % 8)

/-- The data channels of the map, in ascending order. -/
def channels (m : ChannelMap) : List Nat := (List.range dataChannels).filter m.contains

/-- How many data channels the map has. -/
def count (m : ChannelMap) : Nat := m.channels.length

end ChannelMap

end RadioFrame
