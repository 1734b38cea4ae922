import RadioFrame.Catalogue.Adapter

/-!
What can be asked of the messages in which an adapter answers and introduces itself.

* `CmdResult.isSuccess`: whether the last command succeeded.
* `InfoResp.capabilitiesFor`: what the adapter can do in a radio domain.
* `DomainResp.supports` and `DomainResp.supportedTags`: the commands it understands there, bit `n`
  of the mask standing for kind tag `n`.
-/

namespace RadioFrame

/-- The version of the protocol that the catalogue describes. -/
def protocolVersion : Nat := 1

/-! ### Results -/

/-- How the last command ended. -/
abbrev CmdResult : Type := Body Generic.cmdResult

namespace CmdResult

/-- The word for how it ended. -/
def result (r : CmdResult) : resultCode.Word := r.row.1

/-- Whether it succeeded, which is the first word. -/
def isSuccess (r : CmdResult) : Bool := r.result = resultCode.first

/-- The result of a command that succeeded. -/
instance : Inhabited CmdResult := ⟨⟨(resultCode.first, ()), rfl⟩⟩

end CmdResult

/-! ### Versions -/

/-- The version of a firmware. -/
abbrev FirmwareVersion : Type := Discovery.firmwareVersion.Value

namespace FirmwareVersion

/-- The major number. -/
def major (v : FirmwareVersion) : UInt32 := v.1

/-- The minor number. -/
def minor (v : FirmwareVersion) : UInt32 := v.2.1

/-- The revision. -/
def rev (v : FirmwareVersion) : UInt32 := v.2.2.1

/-- The three numbers with points between. -/
def text (v : FirmwareVersion) : String := s!"{v.major}.{v.minor}.{v.rev}"

end FirmwareVersion

/-! ### Introductions -/

/-- How an adapter describes itself. -/
abbrev InfoResp : Type := Body Discovery.infoResp

namespace InfoResp

/-- The version of its firmware. -/
def firmwareVersion (r : InfoResp) : FirmwareVersion := r.row.2.2.2.2.2.2.1

/-- What it can do, domain by domain. -/
def capabilities (r : InfoResp) : List DomainCapabilities := r.row.2.2.2.2.2.2.2.1

/-- The flags of the first entry for a domain, if there is one. -/
def capabilitiesFor (r : InfoResp) (domain : radioDomain.Word) : Option Capabilities :=
  (r.capabilities.find? fun e => e.domain = domain).map (·.capabilities)

end InfoResp

/-! ### Supported commands -/

/-- Which commands an adapter supports in one domain. -/
abbrev DomainResp : Type := Body Discovery.domainResp

namespace DomainResp

/-- The mask of supported commands. -/
def supportedCommands (r : DomainResp) : UInt64 := r.row.2.1

/-- Whether the command of a kind tag is supported. The mask has 64 places; no other tag is. -/
def supports (r : DomainResp) (tag : Nat) : Bool :=
  decide (tag < 64) && r.supportedCommands.toNat.testBit tag

/-- The tags of the supported commands, in ascending order. -/
def supportedTags (r : DomainResp) : List Nat := (List.range 64).filter r.supports

end DomainResp

end RadioFrame
