import RadioFrame.Catalogue.Fields

/-!
The messages of the ZigBee domain, that is of IEEE 802.15.4.
-/

namespace RadioFrame.Zigbee

open RadioFrame.Field

/-- The fields of an adapter's own address. -/
def nodeAddressFields : List Field :=
  [plain .natural64 1 "address", word addressType 2 "address_type"]

/-- Short addresses have 16 bits, extended ones all 64. -/
def shortAddressRule (row : Row Field.Value nodeAddressFields) : Option (String × Overflow) :=
  let address : UInt64 := row.1
  let kind : addressType.Word := row.2.1
  if kind = addressType.first ∧ UInt16.size ≤ address.toNat then
    some ("address", ⟨byteWidth address.toNat, 2⟩)
  else none

/-- Sets the adapter's own address. -/
def setNodeAddress : Shape where
  name := "SetNodeAddress"
  wireName := "SetNodeAddressCmd"
  fields := nodeAddressFields
  title := "NodeAddressFields"
  rule := shortAddressRule

/-- What is told of every captured packet, before the packet itself. -/
def capture : List Field :=
  [natural 1 "channel", maybe .integer 2 "rssi", maybe .natural32 3 "timestamp",
    maybe .flag 4 "fcs_validity", pdu 5 "pdu"]

/-- The messages of the domain, in the order of their tags. -/
def shapes : List Shape :=
  [setNodeAddress,
    .onChannel "SniffMode" "SniffCmd",
    .onChannel "JamMode" "JamCmd",
    .onChannel "EnergyDetectionMode" "EnergyDetectionCmd",
    .onChannel "EndDeviceMode" "EndDeviceCmd",
    .onChannel "RouterMode" "RouterCmd",
    .onChannel "CoordinatorMode" "CoordinatorCmd",
    .bare "Start" "StartCmd",
    .bare "Stop" "StopCmd",
    { name := "SendPdu", wireName := "SendCmd", fields := [natural 1 "channel", pdu 2 "pdu"] },
    { name := "SendRawPdu", wireName := "SendRawCmd",
      fields := [natural 1 "channel", pdu 2 "pdu", natural 3 "fcs"] },
    { name := "ManInTheMiddleMode", wireName := "ManInTheMiddleCmd",
      fields := [word mitmRole 1 "role"] },
    { name := "RawPduReceived", wireName := "RawPduReceived",
      fields := capture ++ [natural 6 "fcs", maybe .natural32 7 "lqi"] },
    { name := "PduReceived", wireName := "PduReceived",
      fields := capture ++ [maybe .natural32 6 "lqi"] },
    { name := "EnergyDetectionSample", wireName := "EnergyDetectionSample",
      fields := [natural 1 "timestamp", natural 2 "sample"] },
    .jammed]

/-- Their names, each with the tag that is declared for it. -/
def kinds : List (String × Nat) :=
  [("SetNodeAddress", 1), ("SniffMode", 2), ("JamMode", 3), ("EnergyDetectionMode", 4),
    ("EndDeviceMode", 5), ("RouterMode", 6), ("CoordinatorMode", 7), ("Start", 8), ("Stop", 9),
    ("SendPdu", 10), ("SendRawPdu", 11), ("ManInTheMiddleMode", 12), ("RawPduReceived", 13),
    ("PduReceived", 14), ("EnergyDetectionSample", 15), ("Jammed", 16)]

end RadioFrame.Zigbee
