import RadioFrame.Wire.Key

/-!
Passing over a record of an unknown field.

A group is passed over record by record until it is closed by its own tag. Each group takes one from
a budget, so that no input nests deeper than the budget allows.
-/

namespace RadioFrame.Wire

/-- Passes over the records of a group up to and with the key that closes it. No more records are
looked at than there are bytes. -/
def skipGroup (skipRecord : Key → Bytes → Except Fault Bytes) (tag : Nat) :
    Nat → Bytes → Except Fault Bytes
  | 0, _ => .error (.plain .badVarint)
  | fuel + 1, bytes => do
      let (key, rest) ← readKey bytes
      if key.wireType = .endGroup then
        if key.tag = tag then .ok rest else .error (.plain .strayEndGroup)
      else
        let rest ← skipRecord key rest
        skipGroup skipRecord tag fuel rest

/-- Passes over the value of an unknown field whose key has been read. -/
def skip : Nat → Key → Bytes → Except Fault Bytes
  | 0, _, _ => .error (.plain .tooDeep)
  | budget + 1, key, bytes =>
      match key.wireType with
      | .varint => do
          let (_, rest) ← readNumber bytes
          .ok rest
      | .sixtyFourBit => do
          let (_, rest) ← readRun 8 bytes
          .ok rest
      | .lengthDelimited => do
          let (_, rest) ← readSized bytes
          .ok rest
      | .thirtyTwoBit => do
          let (_, rest) ← readRun 4 bytes
          .ok rest
      | .startGroup => skipGroup (fun key bytes => skip budget key bytes) key.tag bytes.length bytes
      | .endGroup => .error (.plain .strayEndGroup)

end RadioFrame.Wire
