import RadioFrame.Catalogue.Vocabularies
import RadioFrame.Schema.Shape

/-!
Short names for the usual fields, for use in the tables of the catalogue, the bounds of the
protocol, and the shapes that several domains have.
-/

namespace RadioFrame

/-- The most bytes of a packet in any domain. -/
def maxPduLength : Nat := 255

/-- The most bytes of advertising or scan response data. -/
def maxAdvDataLength : Nat := 31

/-- The most bytes of a pattern held against received packets. -/
def maxPatternLength : Nat := 20

/-- The most bytes of an Enhanced ShockBurst node address. -/
def maxNodeAddressLength : Nat := 5

/-- The most bytes of a synchronisation word. -/
def maxSyncWordLength : Nat := 10

/-- The most bytes of a device identifier. -/
def maxDeviceIdLength : Nat := 16

/-- The most bytes of the author and the address of a firmware. -/
def maxFirmwareStringLength : Nat := 64

namespace Field

/-- A field that is not written when it is zero. -/
def plain (datum : Datum) (tag : Nat) (name : String) : Field :=
  { name, tag, form := .single datum }

/-- A field that may be absent. -/
def maybe (datum : Datum) (tag : Nat) (name : String) : Field :=
  { name, tag, form := .optional datum }

/-- A number of 32 bits. -/
def natural : Nat → String → Field := plain .natural32

/-- A signed number of 32 bits. -/
def integer : Nat → String → Field := plain .integer

/-- A truth value. -/
def flag : Nat → String → Field := plain .flag

/-- A word of a vocabulary. -/
def word (v : Vocabulary) : Nat → String → Field := plain (.word v)

/-- Bytes up to a bound. -/
def payload (bound : Nat) : Nat → String → Field := plain (.payload bound)

/-- A packet. -/
def pdu : Nat → String → Field := payload maxPduLength

end Field

/-! ### Shapes of several domains -/

namespace Shape

open RadioFrame.Field

/-- A shape without fields. -/
def bare (name wireName : String) : Shape := { name, wireName, fields := [] }

/-- A shape whose only field is a channel. -/
def onChannel (name wireName : String) : Shape :=
  { name, wireName, fields := [natural 1 "channel"] }

/-- The jammer fired. -/
def jammed : Shape := { name := "Jammed", wireName := "Jammed", fields := [natural 1 "timestamp"] }

end Shape

end RadioFrame
