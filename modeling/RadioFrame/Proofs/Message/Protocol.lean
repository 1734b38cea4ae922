import Mathlib.Data.List.Sort
import RadioFrame.Domain

/-!
The protocol as it is published: every domain with its tag, and under it every kind of message with
its tag, its name and its fields.

The tables stand here on their own, without the shapes from which messages are read and written.

* A `Line` is a field of the published schema: its tag, its name, what stands there (`Slot`) and how
  often (`Presence`). From the last two comes the number that its keys carry (`Line.code`).
* `published` holds the lines of every kind. Members of messages inside others and the messages of
  an exclusive group are listed with the line that holds them.
* `Shape.lines` tells a shape in the same words.

`map_lines_eq_published` states that the two agree on every kind of every domain.
-/

namespace RadioFrame

namespace Protocol

/-! ### Schemas -/

/-- The simple types of a schema. -/
inductive Simple where
  | uint32
  | uint64
  | int32
  | bool
  | bytes
  /-- The numbers of a vocabulary. -/
  | word (title : String)
  deriving DecidableEq

/-- The number of the layout in the key of a simple value: 2 for bytes behind their length, 0 for
numbers. -/
def Simple.code : Simple → Nat
  | bytes => 2
  | uint32 | uint64 | int32 | bool | word _ => 0

/-- What stands at a line. -/
inductive Slot where
  /-- A simple value. -/
  | simple (type : Simple)
  /-- A message of simple values, given by tag, name and type. -/
  | message (members : List (Nat × String × Simple))
  deriving DecidableEq

/-- How often a line is written. -/
inductive Presence where
  /-- Once, unless it is zero. -/
  | implicit
  /-- Once, if it is there. -/
  | optional
  /-- Once for each of its elements, or once for all if they are numbers. -/
  | repeated
  /-- Once, if it is the one that was chosen of its group. -/
  | oneOf (group : String)
  deriving DecidableEq

/-- A field of a schema. -/
structure Line where
  /-- Its tag. -/
  tag : Nat
  /-- Its name. -/
  name : String
  /-- What stands there. -/
  slot : Slot
  /-- How often. -/
  presence : Presence
  deriving DecidableEq

namespace Line

/-- The number of the layout in the keys of a line: messages are bytes, and so are the numbers of a
list, which stand in one record. -/
def code (l : Line) : Nat :=
  match l.slot, l.presence with
  | .message _, _ => 2
  | .simple _, .repeated => 2
  | .simple type, _ => type.code

/-- A number of 32 bits. -/
def uint32 (tag : Nat) (name : String) : Line := ⟨tag, name, .simple .uint32, .implicit⟩

/-- A number of 64 bits. -/
def uint64 (tag : Nat) (name : String) : Line := ⟨tag, name, .simple .uint64, .implicit⟩

/-- A signed number of 32 bits. -/
def int32 (tag : Nat) (name : String) : Line := ⟨tag, name, .simple .int32, .implicit⟩

/-- A truth value. -/
def flag (tag : Nat) (name : String) : Line := ⟨tag, name, .simple .bool, .implicit⟩

/-- A byte string. -/
def bytes (tag : Nat) (name : String) : Line := ⟨tag, name, .simple .bytes, .implicit⟩

/-- A word of a vocabulary. -/
def word (title : String) (tag : Nat) (name : String) : Line :=
  ⟨tag, name, .simple (.word title), .implicit⟩

/-- A message, which is written if it is there. -/
def message (tag : Nat) (name : String) (members : List (Nat × String × Simple)) : Line :=
  ⟨tag, name, .message members, .optional⟩

/-- A message of an exclusive group. -/
def oneOf (group : String) (tag : Nat) (name : String) (members : List (Nat × String × Simple)) :
    Line :=
  ⟨tag, name, .message members, .oneOf group⟩

/-- The line that may be absent. -/
def optional (l : Line) : Line := { l with presence := .optional }

/-- The line of a list. -/
def repeated (l : Line) : Line := { l with presence := .repeated }

end Line

/-- A kind of message: its tag, its name and its lines in ascending order of tags. -/
abbrev Entry : Type := Nat × String × List Line

/-! ### Tables -/

section Tables

open Line

/-- The general messages. -/
def general : List Entry :=
  [(1, "CmdResult", [word "ResultCode" 1 "result"]),
    (2, "Verbose", [bytes 1 "data"]),
    (3, "DebugMessage", [int32 1 "level", bytes 2 "data"]),
    (4, "Progress", [int32 1 "value"])]

/-- The messages of discovery. -/
def discovery : List Entry :=
  [(1, "InfoQuery", [uint32 1 "proto_ver"]),
    (2, "InfoResp",
      [word "DeviceType" 1 "device_type", bytes 2 "devid", uint32 3 "proto_min_ver",
        uint32 4 "max_speed", bytes 5 "fw_author", bytes 6 "fw_url", uint32 7 "fw_version_major",
        uint32 8 "fw_version_minor", uint32 9 "fw_version_rev",
        repeated (uint32 10 "capabilities")]),
    (3, "ResetQuery", []),
    (4, "ReadyResp", []),
    (5, "DomainQuery", [word "RadioDomain" 1 "domain"]),
    (6, "DomainResp", [word "RadioDomain" 1 "domain", uint64 2 "supported_commands"]),
    (7, "SetSpeed", [uint32 1 "speed"])]

/-- The messages of Bluetooth Low Energy. -/
def bluetooth : List Entry :=
  [(1, "SetBdAddress", [bytes 1 "bd_address", word "BleAddrType" 2 "addr_type"]),
    (2, "SniffAdv", [flag 1 "use_extended_adv", uint32 2 "channel", bytes 3 "bd_address"]),
    (3, "JamAdv", []),
    (4, "JamAdvOnChannel", [uint32 1 "channel"]),
    (5, "ReactiveJam", [uint32 1 "channel", bytes 2 "pattern", uint32 3 "position"]),
    (6, "SniffConnReq",
      [flag 1 "show_empty_packets", flag 2 "show_advertisements", uint32 3 "channel",
        bytes 4 "bd_address"]),
    (7, "SniffAccessAddress", [bytes 1 "monitored_channels"]),
    (8, "SniffActiveConn",
      [uint32 1 "access_address", optional (uint32 2 "crc_init"),
        optional (bytes 3 "channel_map"), optional (uint32 4 "hop_interval"),
        optional (uint32 5 "hop_increment"), bytes 6 "monitored_channels"]),
    (9, "JamConn", [uint32 1 "access_address"]),
    (10, "ScanMode", [flag 1 "active_scan"]),
    (11, "AdvMode", [bytes 1 "scan_data", bytes 2 "scanrsp_data"]),
    (12, "SetAdvData", [bytes 1 "scan_data", bytes 2 "scanrsp_data"]),
    (13, "CentralMode", []),
    (14, "ConnectTo",
      [bytes 1 "bd_address", word "BleAddrType" 2 "addr_type",
        optional (uint32 3 "access_address"), optional (bytes 4 "channel_map"),
        optional (uint32 5 "hop_interval"), optional (uint32 6 "hop_increment"),
        optional (uint32 7 "crc_init")]),
    (15, "SendRawPdu",
      [word "BleDirection" 1 "direction", uint32 2 "conn_handle", uint32 3 "access_address",
        bytes 4 "pdu", uint32 5 "crc", flag 6 "encrypt"]),
    (16, "SendPdu",
      [word "BleDirection" 1 "direction", uint32 2 "conn_handle", bytes 3 "pdu",
        flag 4 "encrypt"]),
    (17, "Disconnect", [uint32 1 "conn_handle"]),
    (18, "PeripheralMode", [bytes 1 "scan_data", bytes 2 "scanrsp_data"]),
    (19, "Start", []),
    (20, "Stop", []),
    (21, "HijackMaster", [uint32 1 "access_address"]),
    (22, "HijackSlave", [uint32 1 "access_address"]),
    (23, "HijackBoth", [uint32 1 "access_address"]),
    (24, "SetEncryption",
      [uint32 1 "conn_handle", flag 2 "enabled", bytes 3 "ll_key", bytes 4 "ll_iv", bytes 5 "key",
        bytes 6 "rand", bytes 7 "ediv"]),
    (25, "PrepareSequence",
      [oneOf "trigger" 1 "reception"
          [(1, "pattern", .bytes), (2, "mask", .bytes), (3, "offset", .uint32)],
        oneOf "trigger" 2 "connection_event" [(1, "connection_event", .uint32)],
        oneOf "trigger" 3 "manual" [], uint32 4 "id", word "BleDirection" 5 "direction",
        repeated (bytes 6 "sequence")]),
    (26, "Trigger", [uint32 1 "id"]),
    (27, "DeleteSequence", [uint32 1 "id"]),
    (28, "AccessAddressDiscovered",
      [uint32 1 "access_address", optional (int32 2 "rssi"), optional (uint32 3 "timestamp")]),
    (29, "AdvPduReceived",
      [word "BleAdvType" 1 "adv_type", int32 2 "rssi", bytes 3 "bd_address", bytes 4 "adv_data",
        word "BleAddrType" 5 "addr_type"]),
    (30, "Connected",
      [bytes 1 "initiator", bytes 2 "advertiser", uint32 3 "access_address",
        uint32 4 "conn_handle", word "BleAddrType" 5 "adv_addr_type",
        word "BleAddrType" 6 "init_addr_type"]),
    (31, "Disconnected", [uint32 1 "reason", uint32 2 "conn_handle"]),
    (32, "Synchronized",
      [uint32 1 "access_address", uint32 2 "crc_init", uint32 3 "hop_interval",
        uint32 4 "hop_increment", bytes 5 "channel_map"]),
    (33, "Desynchronized", [uint32 1 "access_address"]),
    (34, "Hijacked", [flag 1 "success", uint32 2 "access_address"]),
    (35, "Injected",
      [flag 1 "success", uint32 2 "access_address", uint32 3 "injection_attempts"]),
    (36, "RawPduReceived",
      [word "BleDirection" 1 "direction", uint32 2 "channel", optional (int32 3 "rssi"),
        optional (uint32 4 "timestamp"), optional (uint32 5 "relative_timestamp"),
        optional (flag 6 "crc_validity"), uint32 7 "access_address", bytes 8 "pdu",
        uint32 9 "crc", uint32 10 "conn_handle", flag 11 "processed", flag 12 "decrypted"]),
    (37, "PduReceived",
      [word "BleDirection" 1 "direction", bytes 2 "pdu", uint32 3 "conn_handle",
        flag 4 "processed", flag 5 "decrypted"]),
    (38, "Triggered", [uint32 1 "id"])]

/-- The messages of ZigBee. -/
def zigbee : List Entry :=
  [(1, "SetNodeAddress", [uint64 1 "address", word "AddressType" 2 "address_type"]),
    (2, "SniffMode", [uint32 1 "channel"]),
    (3, "JamMode", [uint32 1 "channel"]),
    (4, "EnergyDetectionMode", [uint32 1 "channel"]),
    (5, "EndDeviceMode", [uint32 1 "channel"]),
    (6, "RouterMode", [uint32 1 "channel"]),
    (7, "CoordinatorMode", [uint32 1 "channel"]),
    (8, "Start", []),
    (9, "Stop", []),
    (10, "SendPdu", [uint32 1 "channel", bytes 2 "pdu"]),
    (11, "SendRawPdu", [uint32 1 "channel", bytes 2 "pdu", uint32 3 "fcs"]),
    (12, "ManInTheMiddleMode", [word "MitmRole" 1 "role"]),
    (13, "RawPduReceived",
      [uint32 1 "channel", optional (int32 2 "rssi"), optional (uint32 3 "timestamp"),
        optional (flag 4 "fcs_validity"), bytes 5 "pdu", uint32 6 "fcs",
        optional (uint32 7 "lqi")]),
    (14, "PduReceived",
      [uint32 1 "channel", optional (int32 2 "rssi"), optional (uint32 3 "timestamp"),
        optional (flag 4 "fcs_validity"), bytes 5 "pdu", optional (uint32 6 "lqi")]),
    (15, "EnergyDetectionSample", [uint32 1 "timestamp", uint32 2 "sample"]),
    (16, "Jammed", [uint32 1 "timestamp"])]

/-- The messages of Enhanced ShockBurst. -/
def shockBurst : List Entry :=
  [(1, "SetNodeAddress", [bytes 1 "address"]),
    (2, "SniffMode", [uint32 1 "channel", bytes 2 "address", flag 3 "show_acknowledgements"]),
    (3, "JamMode", [uint32 1 "channel"]),
    (4, "SendPdu", [uint32 1 "channel", bytes 2 "pdu", uint32 3 "retransmission_count"]),
    (5, "SendRawPdu", [uint32 1 "channel", bytes 2 "pdu", uint32 3 "retransmission_count"]),
    (6, "PrxMode", [uint32 1 "channel"]),
    (7, "PtxMode", [uint32 1 "channel"]),
    (8, "Start", []),
    (9, "Stop", []),
    (10, "RawPduReceived",
      [uint32 1 "channel", optional (int32 2 "rssi"), optional (uint32 3 "timestamp"),
        optional (flag 4 "crc_validity"), optional (bytes 5 "address"), bytes 6 "pdu"]),
    (11, "PduReceived",
      [uint32 1 "channel", optional (int32 2 "rssi"), optional (uint32 3 "timestamp"),
        optional (flag 4 "crc_validity"), optional (bytes 5 "address"), bytes 6 "pdu"]),
    (12, "Jammed", [uint32 1 "timestamp"])]

/-- The messages of Logitech Unifying. -/
def unifying : List Entry :=
  [(1, "SetNodeAddress", [bytes 1 "address"]),
    (2, "SniffMode", [uint32 1 "channel", bytes 2 "address", flag 3 "show_acknowledgements"]),
    (3, "JamMode", [uint32 1 "channel"]),
    (4, "SendPdu", [uint32 1 "channel", bytes 2 "pdu", uint32 3 "retransmission_count"]),
    (5, "SendRawPdu", [uint32 1 "channel", bytes 2 "pdu", uint32 3 "retransmission_count"]),
    (6, "DongleMode", [uint32 1 "channel"]),
    (7, "KeyboardMode", [uint32 1 "channel"]),
    (8, "MouseMode", [uint32 1 "channel"]),
    (9, "Start", []),
    (10, "Stop", []),
    (11, "SniffPairing", []),
    (12, "RawPduReceived",
      [uint32 1 "channel", optional (int32 2 "rssi"), optional (uint32 3 "timestamp"),
        optional (flag 4 "crc_validity"), optional (bytes 5 "address"), bytes 6 "pdu"]),
    (13, "PduReceived",
      [uint32 1 "channel", optional (int32 2 "rssi"), optional (uint32 3 "timestamp"),
        optional (flag 4 "crc_validity"), optional (bytes 5 "address"), bytes 6 "pdu"]),
    (14, "Jammed", [uint32 1 "timestamp"])]

/-- The messages of the physical layer. -/
def physical : List Entry :=
  [(1, "SetAskModulation", [flag 1 "on_off_keying"]),
    (2, "SetFskModulation", [uint32 1 "deviation"]),
    (3, "SetGfskModulation", [uint32 1 "deviation"]),
    (4, "SetBpskModulation", []),
    (5, "SetQpskModulation", [flag 1 "offset_qpsk"]),
    (6, "SetLoRaModulation",
      [uint32 1 "bandwidth", word "LoRaSpreadingFactor" 2 "spreading_factor",
        word "LoRaCodingRate" 3 "coding_rate", uint32 4 "preamble_length", flag 5 "enable_crc",
        flag 6 "explicit_mode", flag 7 "invert_iq"]),
    (7, "GetSupportedFrequencies", []),
    (8, "SetFrequency", [uint64 1 "frequency"]),
    (9, "SetDataRate", [uint32 1 "rate"]),
    (10, "SetEndianness", [word "Endianness" 1 "endianness"]),
    (11, "SetTxPower", [word "TxPower" 1 "tx_power"]),
    (12, "SetPacketSize", [uint32 1 "packet_size"]),
    (13, "SetSyncWord", [bytes 1 "sync_word"]),
    (14, "SniffMode", [flag 1 "iq_stream"]),
    (15, "SendPacket", [bytes 1 "packet"]),
    (16, "JamMode", [word "JammingMode" 1 "mode"]),
    (17, "MonitorMode", []),
    (18, "Start", []),
    (19, "Stop", []),
    (20, "SupportedFrequencyRanges",
      [repeated (message 1 "frequency_ranges" [(1, "start", .uint64), (2, "end", .uint64)])]),
    (21, "PacketReceived",
      [uint64 1 "frequency", optional (int32 2 "rssi"),
        message 3 "timestamp" [(1, "sec", .uint32), (2, "usec", .uint32)],
        bytes 4 "packet"]),
    (22, "Jammed",
      [message 1 "timestamp" [(1, "sec", .uint32), (2, "usec", .uint32)]]),
    (23, "MonitoringReport",
      [message 1 "timestamp" [(1, "sec", .uint32), (2, "usec", .uint32)],
        repeated (uint32 2 "report")])]

/-- The tag of every domain, with the kinds of its messages. -/
def published : Domain → Nat × List Entry
  | .generic => (1, general)
  | .discovery => (2, discovery)
  | .ble => (3, bluetooth)
  | .zigbee => (4, zigbee)
  | .esb => (5, shockBurst)
  | .unifying => (6, unifying)
  | .phy => (7, physical)

end Tables

end Protocol

open Protocol

/-! ### Shapes as lines -/

/-- The simple type of a datum. -/
def Datum.simple : Datum → Simple
  | natural32 | capability => .uint32
  | natural64 => .uint64
  | integer => .int32
  | flag => .bool
  | word vocabulary => .word vocabulary.title
  | payload _ | block _ | address | channels => .bytes

/-- The members of a submessage. -/
def Submessage.entries (s : Submessage) : List (Nat × String × Simple) :=
  s.members.map fun m => (m.tag, m.name, m.datum.simple)

/-- The lines of a field of a given name and tag. -/
def Form.lines (name : String) (own : Nat) : Form → List Line
  | single d => [⟨own, name, .simple d.simple, .implicit⟩]
  | optional d => [⟨own, name, .simple d.simple, .optional⟩]
  | list d => [⟨own, name, .simple d.simple, .repeated⟩]
  | record s | optionalRecord s => [⟨own, name, .message s.entries, .optional⟩]
  | records s => [⟨own, name, .message s.entries, .repeated⟩]
  | choice as =>
      as.zipIdx.map fun (a, place) =>
        ⟨own + place, a.name, .message a.submessage.entries, .oneOf name⟩
  | inlined s =>
      s.members.map fun m =>
        ⟨own + m.tag - 1, s!"{name}_{m.name}", .simple m.datum.simple, .implicit⟩

/-- The lines of a shape in ascending order of tags. -/
def Shape.lines (s : Shape) : List Line :=
  (s.fields.flatMap fun f => f.form.lines f.name f.tag).insertionSort fun l l' => l.tag ≤ l'.tag

namespace Protocol

end Protocol

end RadioFrame
