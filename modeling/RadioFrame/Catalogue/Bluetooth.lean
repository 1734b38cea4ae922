import RadioFrame.Catalogue.Fields

/-!
The messages of the Bluetooth Low Energy domain: sniffing, jamming, taking over connections, and the
parts of central and peripheral.
-/

namespace RadioFrame.Bluetooth

open RadioFrame.Field

/-- A device address. -/
def address : Nat → String → Field := plain .address

/-- A pattern held against received packets. -/
def pattern : Nat → String → Field := payload maxPatternLength

/-- Advertising data and scan response data. -/
def advertisement : List Field :=
  [payload maxAdvDataLength 1 "scan_data", payload maxAdvDataLength 2 "scanrsp_data"]

/-- A shape whose only field is the access address of a connection. -/
def onConnection (name wireName : String) : Shape :=
  { name, wireName, fields := [natural 1 "access_address"] }

/-- A shape whose only field is the number of a prepared sequence. -/
def onSequence (name wireName : String) : Shape := { name, wireName, fields := [natural 1 "id"] }

/-- Starts a connection; parameters left absent are chosen by the adapter. -/
def connectTo : Shape where
  name := "ConnectTo"
  wireName := "ConnectToCmd"
  fields :=
    [address 1 "bd_address",
      word bleAddrType 2 "addr_type",
      maybe .natural32 3 "access_address",
      maybe .channels 4 "channel_map",
      maybe .natural32 5 "hop_interval",
      maybe .natural32 6 "hop_increment",
      maybe .natural32 7 "crc_init"]

/-- A received packet fires the sequence when it agrees with a pattern under a mask. -/
def receptionTrigger : Submessage where
  title := "struct variant SequenceTrigger::Reception"
  wireName := "ReceptionTrigger"
  members :=
    [⟨"pattern", 1, .payload maxPatternLength⟩, ⟨"mask", 2, .payload maxPatternLength⟩,
      ⟨"offset", 3, .natural32⟩]

/-- The count of connection events fires the sequence. -/
def connectionEventTrigger : Submessage where
  title := "struct variant SequenceTrigger::ConnectionEvent"
  wireName := "ConnectionEventTrigger"
  members := [⟨"connection_event", 1, .natural32⟩]

/-- A command fires the sequence. -/
def manualTrigger : Submessage where
  title := "unit"
  wireName := "ManualTrigger"
  members := []

/-- What can fire a prepared sequence. -/
def triggers : List Alternative :=
  [⟨"reception", receptionTrigger⟩, ⟨"connection_event", connectionEventTrigger⟩,
    ⟨"manual", manualTrigger⟩]

/-- Stores packets to be sent when a trigger fires. -/
def prepareSequence : Shape where
  name := "PrepareSequence"
  wireName := "PrepareSequenceCmd"
  fields :=
    [natural 4 "id",
      word bleDirection 5 "direction",
      { name := "trigger", tag := 1, form := .choice triggers },
      { name := "sequence", tag := 6, form := .list (.payload maxPduLength) }]

/-- The messages of the domain, in the order of their tags. -/
def shapes : List Shape :=
  [{ name := "SetBdAddress", wireName := "SetBdAddressCmd",
      fields := [address 1 "bd_address", word bleAddrType 2 "addr_type"] },
    { name := "SniffAdv", wireName := "SniffAdvCmd",
      fields := [flag 1 "use_extended_adv", natural 2 "channel", address 3 "bd_address"] },
    .bare "JamAdv" "JamAdvCmd",
    .onChannel "JamAdvOnChannel" "JamAdvOnChannelCmd",
    { name := "ReactiveJam", wireName := "ReactiveJamCmd",
      fields := [natural 1 "channel", pattern 2 "pattern", natural 3 "position"] },
    { name := "SniffConnReq", wireName := "SniffConnReqCmd",
      fields :=
        [flag 1 "show_empty_packets", flag 2 "show_advertisements", natural 3 "channel",
          address 4 "bd_address"] },
    { name := "SniffAccessAddress", wireName := "SniffAccessAddressCmd",
      fields := [plain .channels 1 "monitored_channels"] },
    { name := "SniffActiveConn", wireName := "SniffActiveConnCmd",
      fields :=
        [natural 1 "access_address", maybe .natural32 2 "crc_init",
          maybe .channels 3 "channel_map", maybe .natural32 4 "hop_interval",
          maybe .natural32 5 "hop_increment", plain .channels 6 "monitored_channels"] },
    onConnection "JamConn" "JamConnCmd",
    { name := "ScanMode", wireName := "ScanModeCmd", fields := [flag 1 "active_scan"] },
    { name := "AdvMode", wireName := "AdvModeCmd", fields := advertisement },
    { name := "SetAdvData", wireName := "SetAdvDataCmd", fields := advertisement },
    .bare "CentralMode" "CentralModeCmd",
    connectTo,
    { name := "SendRawPdu", wireName := "SendRawPduCmd",
      fields :=
        [word bleDirection 1 "direction", natural 2 "conn_handle", natural 3 "access_address",
          pdu 4 "pdu", natural 5 "crc", flag 6 "encrypt"] },
    { name := "SendPdu", wireName := "SendPduCmd",
      fields :=
        [word bleDirection 1 "direction", natural 2 "conn_handle", pdu 3 "pdu",
          flag 4 "encrypt"] },
    { name := "Disconnect", wireName := "DisconnectCmd", fields := [natural 1 "conn_handle"] },
    { name := "PeripheralMode", wireName := "PeripheralModeCmd", fields := advertisement },
    .bare "Start" "StartCmd",
    .bare "Stop" "StopCmd",
    onConnection "HijackMaster" "HijackMasterCmd",
    onConnection "HijackSlave" "HijackSlaveCmd",
    onConnection "HijackBoth" "HijackBothCmd",
    { name := "SetEncryption", wireName := "SetEncryptionCmd",
      fields :=
        [natural 1 "conn_handle", flag 2 "enabled", plain (.block 16) 3 "ll_key",
          plain (.block 8) 4 "ll_iv", plain (.block 16) 5 "key", plain (.block 8) 6 "rand",
          plain (.block 2) 7 "ediv"] },
    prepareSequence,
    onSequence "Trigger" "TriggerCmd",
    onSequence "DeleteSequence" "DeleteSequenceCmd",
    { name := "AccessAddressDiscovered", wireName := "AccessAddressDiscovered",
      fields :=
        [natural 1 "access_address", maybe .integer 2 "rssi", maybe .natural32 3 "timestamp"] },
    { name := "AdvPduReceived", wireName := "AdvPduReceived",
      fields :=
        [word bleAdvType 1 "adv_type", integer 2 "rssi", address 3 "bd_address",
          payload maxAdvDataLength 4 "adv_data", word bleAddrType 5 "addr_type"] },
    { name := "Connected", wireName := "Connected",
      fields :=
        [address 1 "initiator", address 2 "advertiser", natural 3 "access_address",
          natural 4 "conn_handle", word bleAddrType 5 "adv_addr_type",
          word bleAddrType 6 "init_addr_type"] },
    { name := "Disconnected", wireName := "Disconnected",
      fields := [natural 1 "reason", natural 2 "conn_handle"] },
    { name := "Synchronized", wireName := "Synchronized",
      fields :=
        [natural 1 "access_address", natural 2 "crc_init", natural 3 "hop_interval",
          natural 4 "hop_increment", plain .channels 5 "channel_map"] },
    onConnection "Desynchronized" "Desynchronized",
    { name := "Hijacked", wireName := "Hijacked",
      fields := [flag 1 "success", natural 2 "access_address"] },
    { name := "Injected", wireName := "Injected",
      fields :=
        [flag 1 "success", natural 2 "access_address", natural 3 "injection_attempts"] },
    { name := "RawPduReceived", wireName := "RawPduReceived",
      fields :=
        [word bleDirection 1 "direction", natural 2 "channel", maybe .integer 3 "rssi",
          maybe .natural32 4 "timestamp", maybe .natural32 5 "relative_timestamp",
          maybe .flag 6 "crc_validity", natural 7 "access_address", pdu 8 "pdu",
          natural 9 "crc", natural 10 "conn_handle", flag 11 "processed",
          flag 12 "decrypted"] },
    { name := "PduReceived", wireName := "PduReceived",
      fields :=
        [word bleDirection 1 "direction", pdu 2 "pdu", natural 3 "conn_handle",
          flag 4 "processed", flag 5 "decrypted"] },
    onSequence "Triggered" "Triggered"]

/-- Their names, each with the tag that is declared for it. -/
def kinds : List (String × Nat) :=
  [("SetBdAddress", 1), ("SniffAdv", 2), ("JamAdv", 3), ("JamAdvOnChannel", 4),
    ("ReactiveJam", 5), ("SniffConnReq", 6), ("SniffAccessAddress", 7), ("SniffActiveConn", 8),
    ("JamConn", 9), ("ScanMode", 10), ("AdvMode", 11), ("SetAdvData", 12), ("CentralMode", 13),
    ("ConnectTo", 14), ("SendRawPdu", 15), ("SendPdu", 16), ("Disconnect", 17),
    ("PeripheralMode", 18), ("Start", 19), ("Stop", 20), ("HijackMaster", 21),
    ("HijackSlave", 22), ("HijackBoth", 23), ("SetEncryption", 24), ("PrepareSequence", 25),
    ("Trigger", 26), ("DeleteSequence", 27), ("AccessAddressDiscovered", 28),
    ("AdvPduReceived", 29), ("Connected", 30), ("Disconnected", 31), ("Synchronized", 32),
    ("Desynchronized", 33), ("Hijacked", 34), ("Injected", 35), ("RawPduReceived", 36),
    ("PduReceived", 37), ("Triggered", 38)]

end RadioFrame.Bluetooth
