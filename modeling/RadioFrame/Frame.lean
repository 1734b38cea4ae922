import RadioFrame.Domain

/-!
Frames: what the bytes exchanged with an adapter say, before anything is checked.

A frame holds at most one domain, a domain at most one kind, and a kind the raw values of its
fields. `Frame.merge` reads the records of a byte string into a frame, `Frame.decode` into the empty
one, and `Frame.encode` writes a frame.

On the wire the domains are the fields of a frame, and the kinds of a domain are the fields of its
message, at consecutive tags from 1 on. These tags are the ones by which domains and kinds are known
(`Domain.wireTag_eq_tag`, `Kind.wireTag_eq_tag`, `Kind.ofTag?_eq_ofWireTag?`).
-/

namespace RadioFrame

/-! ### Tags on the wire -/

namespace Domain

/-- The tag at which the message of a domain stands in a frame. -/
def wireTag : Domain → Nat
  | generic => 1
  | discovery => 2
  | ble => 3
  | zigbee => 4
  | esb => 5
  | unifying => 6
  | phy => 7

/-- The domain whose message stands at a tag of a frame. -/
def ofWireTag? : Nat → Option Domain
  | 1 => some generic
  | 2 => some discovery
  | 3 => some ble
  | 4 => some zigbee
  | 5 => some esb
  | 6 => some unifying
  | 7 => some phy
  | _ => none

theorem ofWireTag?_wireTag (d : Domain) : ofWireTag? d.wireTag = some d := by cases d <;> rfl

/-- A domain stands at the tag by which it is known. -/
theorem wireTag_eq_tag (d : Domain) : d.wireTag = d.tag := by cases d <;> rfl

theorem ofWireTag?_tag (d : Domain) : ofWireTag? d.tag = some d := by
  rw [← wireTag_eq_tag, ofWireTag?_wireTag]

end Domain

namespace Kind

variable {d : Domain}

/-- The tag at which the body of a kind stands in the message of its domain. -/
def wireTag (k : Kind d) : Nat := k.val + 1

/-- The kind whose body stands at a tag of the message of a domain. -/
def ofWireTag? (d : Domain) (tag : Nat) : Option (Kind d) :=
  if h : 0 < tag ∧ tag - 1 < d.shapes.length then some ⟨tag - 1, h.2⟩ else none

theorem ofWireTag?_wireTag (k : Kind d) : ofWireTag? d k.wireTag = some k := by
  have h := k.isLt
  simp [ofWireTag?, wireTag, h]

/-- A kind stands at the tag by which it is known. -/
theorem wireTag_eq_tag (k : Kind d) : k.wireTag = k.tag := by
  revert k
  cases d <;> decide

theorem ofWireTag?_tag (k : Kind d) : ofWireTag? d k.tag = some k := by
  rw [← wireTag_eq_tag, ofWireTag?_wireTag]

/-- The kind that is known by a tag is the one whose body stands there. -/
theorem ofTag?_eq_ofWireTag? (tag : Nat) : ofTag? d tag = ofWireTag? d tag := by
  rw [ofWireTag?]
  split
  · next h =>
      have hkind := ofTag?_tag (⟨tag - 1, h.2⟩ : Kind d)
      rw [← wireTag_eq_tag, wireTag, Nat.sub_add_cancel h.1] at hkind
      exact hkind
  · next h =>
      refine List.find?_eq_none.mpr fun k _ htag => h ?_
      have hlt := k.isLt
      rw [decide_eq_true_iff, ← wireTag_eq_tag, wireTag] at htag
      omega

end Kind

/-! ### Frames -/

/-- The content of a domain's message: one kind with the raw values of its fields. -/
abbrev Branch (d : Domain) : Type := OneOf fun k : Kind d => (Kind.shape k).Raw

/-- The content of a frame: one domain with what its message holds, if anything. -/
abbrev Frame : Type := Option (OneOf fun d : Domain => Option (Branch d))

/-- The frame that holds a kind of message of a domain. -/
def Branch.wrap {d : Domain} (branch : Branch d) : Frame := some ⟨d, some branch⟩

namespace Frame

/-- What a message of either level is called on the wire. -/
def messageName : String := "Message"

/-- What the group of exclusive fields in it is called. -/
def groupName : String := "msg"

/-- The records that change the message of a domain: one for each of its kinds. -/
def branchReaders (d : Domain) : Wire.FieldReaders (Option (Branch d)) :=
  Wire.oneOfReader groupName (Kind.ofWireTag? d) (fun k => (Kind.shape k).blank)
    fun k => (Kind.shape k).merge

/-- Merges a record of a domain's message into a value. -/
def mergeBranch (d : Domain) : Wire.WireType → Nat → Option (Branch d) → Bytes →
    Except Wire.Fault (Option (Branch d) × Bytes) :=
  Wire.mergeDelimited messageName (branchReaders d)

/-- The records that change a frame: one for each domain. -/
def readers : Wire.FieldReaders Frame :=
  Wire.oneOfReader groupName Domain.ofWireTag? (fun _ => none) mergeBranch

/-- Reads all records of a byte string into a frame. -/
def merge (f : Frame) (bytes : Bytes) : Except Wire.Fault Frame :=
  Wire.merge messageName readers f bytes

/-- Reads a byte string as a frame. -/
def decode (bytes : Bytes) : Except Wire.Fault Frame := merge none bytes

/-- The content of a domain's message. -/
def encodeBranch {d : Domain} : Option (Branch d) → Bytes
  | none => []
  | some ⟨k, raw⟩ => Wire.writeDelimited (Kind.wireTag k) ((Kind.shape k).write raw)

/-- Writes a frame. -/
def encode : Frame → Bytes
  | none => []
  | some ⟨d, branch⟩ => Wire.writeDelimited d.wireTag (encodeBranch branch)

/-- Frames are compared by their content. -/
instance decEq : DecidableEq Frame :=
  inferInstanceAs (DecidableEq (Option (OneOf fun d : Domain => Option (Branch d))))

end Frame

end RadioFrame
