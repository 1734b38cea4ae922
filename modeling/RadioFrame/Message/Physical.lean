import RadioFrame.Catalogue.Physical

/-!
The frequencies at which an adapter can work, and the order of moments.
-/

namespace RadioFrame

/-! ### Frequencies -/

/-- A range of frequencies in hertz. -/
abbrev FrequencyRange : Type := Physical.frequencyRange.Value

namespace FrequencyRange

/-- The lowest frequency. -/
def lowest (r : FrequencyRange) : UInt64 := r.1

/-- The highest frequency. -/
def highest (r : FrequencyRange) : UInt64 := r.2.1

/-- Whether a frequency lies in the range, its ends included. -/
def contains (r : FrequencyRange) (hertz : UInt64) : Bool :=
  decide (r.lowest ≤ hertz) && decide (hertz ≤ r.highest)

end FrequencyRange

/-- The ranges in which an adapter can work. -/
abbrev SupportedFrequencyRanges : Type := Body Physical.supportedFrequencyRanges

namespace SupportedFrequencyRanges

/-- The ranges. -/
def ranges (s : SupportedFrequencyRanges) : List FrequencyRange := s.row.1

/-- Whether the adapter can work at a frequency: whether one of the ranges has it. -/
def supports (s : SupportedFrequencyRanges) (hertz : UInt64) : Bool :=
  s.ranges.any fun r => r.contains hertz

end SupportedFrequencyRanges

/-! ### Moments -/

/-- A moment, in seconds and microseconds. -/
abbrev Timestamp : Type := Physical.timestamp.Value

namespace Timestamp

/-- The whole seconds. -/
def sec (t : Timestamp) : UInt32 := t.1

/-- The microseconds. -/
def usec (t : Timestamp) : UInt32 := t.2.1

/-- Whether a moment is not after another: the seconds decide, then the microseconds. -/
def notAfter (s t : Timestamp) : Bool :=
  decide (s.sec < t.sec) || (decide (s.sec = t.sec) && decide (s.usec ≤ t.usec))

end Timestamp

end RadioFrame
