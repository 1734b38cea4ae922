import RadioFrame.Schema.Vocabulary

/-!
The vocabularies of the protocol.
-/

namespace RadioFrame

/-- Words numbered from zero in the order given. -/
def numbered (words : List String) : List (String × Int32) :=
  words.zipIdx.map fun (w, i) => (w, Int32.ofNat i)

/-- How a command ended. -/
def resultCode : Vocabulary where
  title := "ResultCode"
  entries := numbered
    ["success", "error", "parameter_error", "disconnected", "wrong_mode", "unsupported_domain",
      "busy"]

/-- Makes of adapter. -/
def deviceType : Vocabulary where
  title := "DeviceType"
  entries := numbered
    ["butterfly", "btle_jack", "ubertooth", "yardstick", "hci_device", "api_mote", "rf_storm",
      "virtual"]

/-- Radio domains that a device can announce. A number is a multiple of `2 ^ 24`, so that it fills
the top byte of a capability word and leaves the rest to the flags. -/
def radioDomain : Vocabulary where
  title := "RadioDomain"
  entries :=
    ["unspecified", "phy", "bt_classic", "bt_le", "zigbee", "six_low_pan", "esb",
      "logitech_unifying", "mosart", "ant", "ant_plus", "ant_fs"].zipIdx.map
        fun (w, i) => (w, Int32.ofNat (i * 0x1000000))

/-- Kinds of Bluetooth device address. -/
def bleAddrType : Vocabulary where
  title := "BleAddrType"
  entries := numbered ["public", "random"]

/-- Which way a link-layer packet travels. -/
def bleDirection : Vocabulary where
  title := "BleDirection"
  entries := numbered
    ["unknown", "master_to_slave", "slave_to_master", "injection_to_slave",
      "injection_to_master"]

/-- Kinds of advertisement. -/
def bleAdvType : Vocabulary where
  title := "BleAdvType"
  entries := numbered
    ["unknown", "adv_ind", "adv_direct_ind", "adv_nonconn_ind", "adv_scan_ind", "adv_scan_rsp"]

/-- Widths of an 802.15.4 address. -/
def addressType : Vocabulary where
  title := "AddressType"
  entries := numbered ["short", "extended"]

/-- Parts to play between two 802.15.4 nodes. -/
def mitmRole : Vocabulary where
  title := "MitmRole"
  entries := numbered ["reactive_jammer", "correlator"]

/-- Bit orders. -/
def endianness : Vocabulary where
  title := "Endianness"
  entries := numbered ["big", "little"]

/-- Transmission powers. -/
def txPower : Vocabulary where
  title := "TxPower"
  entries := numbered ["low", "medium", "high"]

/-- Ways of jamming. -/
def jammingMode : Vocabulary where
  title := "JammingMode"
  entries := numbered ["continuous", "reactive"]

/-- LoRa spreading factors. -/
def spreadingFactor : Vocabulary where
  title := "LoRaSpreadingFactor"
  entries := numbered ["sf7", "sf8", "sf9", "sf10", "sf11", "sf12"]

/-- LoRa coding rates. -/
def codingRate : Vocabulary where
  title := "LoRaCodingRate"
  entries := numbered ["cr45", "cr46", "cr47", "cr48"]

/-- Every vocabulary. -/
def vocabularies : List Vocabulary :=
  [resultCode, deviceType, radioDomain, bleAddrType, bleDirection, bleAdvType, addressType,
    mitmRole, endianness, txPower, jammingMode, spreadingFactor, codingRate]

end RadioFrame
