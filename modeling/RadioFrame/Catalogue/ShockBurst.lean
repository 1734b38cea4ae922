import RadioFrame.Catalogue.Fields

/-!
The messages of Enhanced ShockBurst, and of Logitech Unifying, which is layered on it.

Ten kinds have the same shape in both domains, at tags of their own.
-/

namespace RadioFrame

namespace ShockBurst

open RadioFrame.Field

/-- The meaning of a node address. -/
def nodeAddress : Datum := .payload maxNodeAddressLength

/-- Sets the node address for sending and filtering. -/
def setNodeAddress : Shape where
  name := "SetNodeAddress"
  wireName := "SetNodeAddressCmd"
  fields := [plain nodeAddress 1 "address"]

/-- Listens to one node, or to all with the promiscuous address. -/
def sniffMode : Shape where
  name := "SniffMode"
  wireName := "SniffCmd"
  fields :=
    [natural 1 "channel", plain nodeAddress 2 "address", flag 3 "show_acknowledgements"]

/-- Jams a channel. -/
def jamMode : Shape := .onChannel "JamMode" "JamCmd"

/-- A packet to be sent. -/
def sending (name wireName : String) : Shape where
  name := name
  wireName := wireName
  fields := [natural 1 "channel", pdu 2 "pdu", natural 3 "retransmission_count"]

/-- Sends a packet. -/
def sendPdu : Shape := sending "SendPdu" "SendCmd"

/-- Sends a packet as it is given. -/
def sendRawPdu : Shape := sending "SendRawPdu" "SendRawCmd"

/-- Starts the mode that was set. -/
def start : Shape := .bare "Start" "StartCmd"

/-- Stops it. -/
def stop : Shape := .bare "Stop" "StopCmd"

/-- A captured packet. -/
def capture (name : String) : Shape where
  name := name
  wireName := name
  fields :=
    [natural 1 "channel", maybe .integer 2 "rssi", maybe .natural32 3 "timestamp",
      maybe .flag 4 "crc_validity", maybe nodeAddress 5 "address", pdu 6 "pdu"]

/-- A captured packet as it was received. -/
def rawPduReceived : Shape := capture "RawPduReceived"

/-- A captured packet. -/
def pduReceived : Shape := capture "PduReceived"

/-- The messages of Enhanced ShockBurst, in the order of their tags. -/
def shapes : List Shape :=
  [setNodeAddress, sniffMode, jamMode, sendPdu, sendRawPdu,
    .onChannel "PrxMode" "PrxCmd",
    .onChannel "PtxMode" "PtxCmd",
    start, stop, rawPduReceived, pduReceived, .jammed]

/-- Their names, each with the tag that is declared for it. -/
def kinds : List (String × Nat) :=
  [("SetNodeAddress", 1), ("SniffMode", 2), ("JamMode", 3), ("SendPdu", 4), ("SendRawPdu", 5),
    ("PrxMode", 6), ("PtxMode", 7), ("Start", 8), ("Stop", 9), ("RawPduReceived", 10),
    ("PduReceived", 11), ("Jammed", 12)]

end ShockBurst

namespace Unifying

open ShockBurst

/-- The messages of Logitech Unifying, in the order of their tags. -/
def shapes : List Shape :=
  [setNodeAddress, sniffMode, jamMode, sendPdu, sendRawPdu,
    .onChannel "DongleMode" "DongleModeCmd",
    .onChannel "KeyboardMode" "KeyboardModeCmd",
    .onChannel "MouseMode" "MouseModeCmd",
    start, stop,
    .bare "SniffPairing" "SniffPairingCmd",
    rawPduReceived, pduReceived, .jammed]

/-- Their names, each with the tag that is declared for it. -/
def kinds : List (String × Nat) :=
  [("SetNodeAddress", 1), ("SniffMode", 2), ("JamMode", 3), ("SendPdu", 4), ("SendRawPdu", 5),
    ("DongleMode", 6), ("KeyboardMode", 7), ("MouseMode", 8), ("Start", 9), ("Stop", 10),
    ("SniffPairing", 11), ("RawPduReceived", 12), ("PduReceived", 13), ("Jammed", 14)]

end Unifying

end RadioFrame
