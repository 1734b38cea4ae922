import RadioFrame.Bytes
import RadioFrame.Catalogue.Vocabularies

/-!
What a device can do in one radio domain, and the word in which it says so.

A capability word has the number of the domain in its top byte and the flags in the 24 bits below.
Flags are kept within those bits, so that no flag ever changes the domain.
-/

namespace RadioFrame

/-- Capability flags, all below bit 24. -/
@[ext]
structure Capabilities where
  /-- The flags as a number. -/
  bits : UInt32
  /-- None of them reaches the domain's byte. -/
  bits_lt : bits.toNat < 0x1000000
  deriving DecidableEq

namespace Capabilities

/-- No flag. -/
def none : Capabilities := ⟨0, by decide⟩

instance : Inhabited Capabilities := ⟨none⟩

/-- The flags among the low 24 bits of a number; the others are dropped. -/
def ofBits (bits : UInt32) : Capabilities :=
  ⟨UInt32.ofNat (bits.toNat % 0x1000000), by
    have h := Nat.mod_lt bits.toNat (show 0 < 0x1000000 by decide)
    have hs : 0x1000000 < UInt32.size := by decide
    rw [UInt32.toNat_ofNat_of_lt' (by omega)]
    exact h⟩

/-- The flags of a number, if it has none above bit 24. -/
def ofNumber (bits : UInt32) : Except Overflow Capabilities :=
  if h : bits.toNat < 0x1000000 then .ok ⟨bits, h⟩ else .error ⟨byteWidth bits.toNat, 3⟩

/-- Whether all flags of the second are among those of the first. -/
def contains (a b : Capabilities) : Bool := a.bits &&& b.bits == b.bits

/-- The flags of both. -/
def union (a b : Capabilities) : Capabilities :=
  ⟨a.bits ||| b.bits, by
    rw [UInt32.toNat_or]
    exact Nat.or_lt_two_pow (n := 24) a.bits_lt b.bits_lt⟩

instance : OrOp Capabilities := ⟨union⟩

/-! ### The flags by name -/

/-- Can scan for devices. -/
def scan : Capabilities := ofBits 0x01

/-- Can listen to others. -/
def sniff : Capabilities := ofBits 0x02

/-- Can inject packets. -/
def inject : Capabilities := ofBits 0x04

/-- Can jam. -/
def jam : Capabilities := ofBits 0x08

/-- Can take over a connection. -/
def hijack : Capabilities := ofBits 0x10

/-- Can call back on an event. -/
def hook : Capabilities := ofBits 0x20

/-- Can play a part in the protocol. -/
def simulateRole : Capabilities := ofBits 0x40

/-- Reports no raw packets. -/
def noRawData : Capabilities := ofBits 0x80

end Capabilities

/-- The capabilities of a device in one domain. -/
structure DomainCapabilities where
  /-- The domain. -/
  domain : radioDomain.Word
  /-- The flags. -/
  capabilities : Capabilities
  deriving DecidableEq

namespace DomainCapabilities

instance : Inhabited DomainCapabilities := ⟨⟨radioDomain.first, .none⟩⟩

/-- The capability word: the domain's number and the flags. -/
def toWord (e : DomainCapabilities) : UInt32 :=
  (Vocabulary.number e.domain).toUInt32 ||| e.capabilities.bits

/-- The number in the domain's byte of a word, as a signed number. -/
def domainNumber (word : UInt32) : Int32 :=
  Int32.ofNat (word.toNat / 0x1000000 * 0x1000000)

/-- The entry of a word whose domain has a given number, if a domain has it. -/
def ofDomainNumber (number : Int32) (word : UInt32) : Except UnknownNumber DomainCapabilities :=
  match radioDomain.ofNumber? number with
  | some domain => .ok ⟨domain, .ofBits word⟩
  | none => .error ⟨number⟩

/-- The entry that a word stands for, if its top byte names a domain. -/
def ofWord (word : UInt32) : Except UnknownNumber DomainCapabilities :=
  ofDomainNumber (domainNumber word) word

end DomainCapabilities

end RadioFrame
