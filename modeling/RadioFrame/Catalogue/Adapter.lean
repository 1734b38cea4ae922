import RadioFrame.Catalogue.Fields

/-!
What any adapter says whatever its radio does, and how it introduces itself.
-/

namespace RadioFrame

/-! ### General messages -/

namespace Generic

open RadioFrame.Field

/-- How the last command ended. -/
def cmdResult : Shape where
  name := "CmdResult"
  wireName := "CmdResult"
  fields := [word resultCode 1 "result"]

/-- The general messages, in the order of their tags. -/
def shapes : List Shape :=
  [cmdResult,
    { name := "Verbose", wireName := "Verbose", fields := [pdu 1 "data"] },
    { name := "DebugMessage", wireName := "DebugMsg",
      fields := [integer 1 "level", pdu 2 "data"] },
    { name := "Progress", wireName := "Progress", fields := [integer 1 "value"] }]

/-- Their names, each with the tag that is declared for it. -/
def kinds : List (String × Nat) :=
  [("CmdResult", 1), ("Verbose", 2), ("DebugMessage", 3), ("Progress", 4)]

end Generic

/-! ### Discovery -/

namespace Discovery

open RadioFrame.Field

/-- The version of a firmware. -/
def firmwareVersion : Submessage where
  title := "struct FirmwareVersion"
  wireName := "FirmwareVersion"
  members := [⟨"major", 1, .natural32⟩, ⟨"minor", 2, .natural32⟩, ⟨"rev", 3, .natural32⟩]

/-- How an adapter describes itself. -/
def infoResp : Shape where
  name := "InfoResp"
  wireName := "DeviceInfoResp"
  fields :=
    [word deviceType 1 "device_type",
      { name := "devid", tag := 2, form := .single (.payload maxDeviceIdLength),
        key := "device_id" },
      natural 3 "proto_min_ver",
      natural 4 "max_speed",
      payload maxFirmwareStringLength 5 "fw_author",
      payload maxFirmwareStringLength 6 "fw_url",
      { name := "fw_version", tag := 7, form := .inlined firmwareVersion },
      { name := "capabilities", tag := 10, form := .list .capability }]

/-- Which commands an adapter supports in one domain: bit `n` stands for kind tag `n`. -/
def domainResp : Shape where
  name := "DomainResp"
  wireName := "DeviceDomainInfoResp"
  fields := [word radioDomain 1 "domain", plain .natural64 2 "supported_commands"]

/-- The messages of discovery, in the order of their tags. -/
def shapes : List Shape :=
  [{ name := "InfoQuery", wireName := "DeviceInfoQuery", fields := [natural 1 "proto_ver"] },
    infoResp,
    .bare "ResetQuery" "DeviceResetQuery",
    .bare "ReadyResp" "DeviceReadyResp",
    { name := "DomainQuery", wireName := "DeviceDomainInfoQuery",
      fields := [word radioDomain 1 "domain"] },
    domainResp,
    { name := "SetSpeed", wireName := "SetTransportSpeed", fields := [natural 1 "speed"] }]

/-- Their names, each with the tag that is declared for it. -/
def kinds : List (String × Nat) :=
  [("InfoQuery", 1), ("InfoResp", 2), ("ResetQuery", 3), ("ReadyResp", 4), ("DomainQuery", 5),
    ("DomainResp", 6), ("SetSpeed", 7)]

end Discovery

end RadioFrame
