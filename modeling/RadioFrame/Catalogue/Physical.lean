import RadioFrame.Catalogue.Fields

/-!
The messages of the bare physical layer: modulation, packets and the view of the spectrum.
-/

namespace RadioFrame.Physical

open RadioFrame.Field

/-- A moment, in seconds and microseconds. -/
def timestamp : Submessage where
  title := "struct Timestamp"
  wireName := "Timestamp"
  members := [⟨"sec", 1, .natural32⟩, ⟨"usec", 2, .natural32⟩]

/-- A range of frequencies in hertz, ends included. -/
def frequencyRange : Submessage where
  title := "struct FrequencyRange"
  wireName := "FrequencyRange"
  members := [⟨"start", 1, .natural64⟩, ⟨"end", 2, .natural64⟩]

/-- The moment at which something happened, if it was noted. -/
def moment (tag : Nat) : Field :=
  { name := "timestamp", tag, form := .optionalRecord timestamp }

/-- The ranges in which an adapter can work. -/
def supportedFrequencyRanges : Shape where
  name := "SupportedFrequencyRanges"
  wireName := "SupportedFrequencyRanges"
  fields := [{ name := "frequency_ranges", tag := 1, form := .records frequencyRange }]

/-- The jammer fired. -/
def jammed : Shape where
  name := "Jammed"
  wireName := "Jammed"
  fields := [{ name := "timestamp", tag := 1, form := .record timestamp }]

/-- The messages of the domain, in the order of their tags. -/
def shapes : List Shape :=
  [{ name := "SetAskModulation", wireName := "SetAskModulationCmd",
      fields := [flag 1 "on_off_keying"] },
    { name := "SetFskModulation", wireName := "SetFskModulationCmd",
      fields := [natural 1 "deviation"] },
    { name := "SetGfskModulation", wireName := "SetGfskModulationCmd",
      fields := [natural 1 "deviation"] },
    .bare "SetBpskModulation" "SetBpskModulationCmd",
    { name := "SetQpskModulation", wireName := "SetQpskModulationCmd",
      fields := [flag 1 "offset_qpsk"] },
    { name := "SetLoRaModulation", wireName := "SetLoRaModulationCmd",
      fields :=
        [natural 1 "bandwidth", word spreadingFactor 2 "spreading_factor",
          word codingRate 3 "coding_rate", natural 4 "preamble_length", flag 5 "enable_crc",
          flag 6 "explicit_mode", flag 7 "invert_iq"] },
    .bare "GetSupportedFrequencies" "GetSupportedFrequenciesCmd",
    { name := "SetFrequency", wireName := "SetFrequencyCmd",
      fields := [plain .natural64 1 "frequency"] },
    { name := "SetDataRate", wireName := "SetDataRateCmd", fields := [natural 1 "rate"] },
    { name := "SetEndianness", wireName := "SetEndiannessCmd",
      fields := [word endianness 1 "endianness"] },
    { name := "SetTxPower", wireName := "SetTxPowerCmd", fields := [word txPower 1 "tx_power"] },
    { name := "SetPacketSize", wireName := "SetPacketSizeCmd",
      fields := [natural 1 "packet_size"] },
    { name := "SetSyncWord", wireName := "SetSyncWordCmd",
      fields := [payload maxSyncWordLength 1 "sync_word"] },
    { name := "SniffMode", wireName := "SniffCmd", fields := [flag 1 "iq_stream"] },
    { name := "SendPacket", wireName := "SendCmd", fields := [pdu 1 "packet"] },
    { name := "JamMode", wireName := "JamCmd", fields := [word jammingMode 1 "mode"] },
    .bare "MonitorMode" "MonitorCmd",
    .bare "Start" "StartCmd",
    .bare "Stop" "StopCmd",
    supportedFrequencyRanges,
    { name := "PacketReceived", wireName := "PacketReceived",
      fields :=
        [plain .natural64 1 "frequency", maybe .integer 2 "rssi", moment 3, pdu 4 "packet"] },
    jammed,
    { name := "MonitoringReport", wireName := "MonitoringReport",
      fields := [moment 1, { name := "report", tag := 2, form := .list .natural32 }] }]

/-- Their names, each with the tag that is declared for it. -/
def kinds : List (String × Nat) :=
  [("SetAskModulation", 1), ("SetFskModulation", 2), ("SetGfskModulation", 3),
    ("SetBpskModulation", 4), ("SetQpskModulation", 5), ("SetLoRaModulation", 6),
    ("GetSupportedFrequencies", 7), ("SetFrequency", 8), ("SetDataRate", 9),
    ("SetEndianness", 10), ("SetTxPower", 11), ("SetPacketSize", 12), ("SetSyncWord", 13),
    ("SniffMode", 14), ("SendPacket", 15), ("JamMode", 16), ("MonitorMode", 17), ("Start", 18),
    ("Stop", 19), ("SupportedFrequencyRanges", 20), ("PacketReceived", 21), ("Jammed", 22),
    ("MonitoringReport", 23)]

end RadioFrame.Physical
