import RadioFrame.Catalogue.Adapter
import RadioFrame.Catalogue.Bluetooth
import RadioFrame.Catalogue.Physical
import RadioFrame.Catalogue.ShockBurst
import RadioFrame.Catalogue.Zigbee

/-!
Domains and kinds: the two levels at which a message says what it is.

A domain is a field of the frame, a kind a field of the domain's message. A kind is a place in the
list of its domain's shapes; the tag by which it is known is the one that is declared for it. A
message type is a domain with one of its kinds.
-/

namespace RadioFrame

/-! ### Domains -/

/-- The areas of the protocol. -/
inductive Domain where
  | generic
  | discovery
  | ble
  | zigbee
  | esb
  | unifying
  | phy
  deriving DecidableEq, Repr

namespace Domain

/-- Every domain, in the order of the tags. -/
def all : List Domain := [generic, discovery, ble, zigbee, esb, unifying, phy]

/-- The tag by which a domain is known. -/
def tag : Domain → Nat
  | generic => 1
  | discovery => 2
  | ble => 3
  | zigbee => 4
  | esb => 5
  | unifying => 6
  | phy => 7

/-- The name of a domain. -/
def name : Domain → String
  | generic => "generic"
  | discovery => "discovery"
  | ble => "ble"
  | zigbee => "zigbee"
  | esb => "esb"
  | unifying => "unifying"
  | phy => "phy"

/-- Lower case for the letters of ASCII. -/
def foldCase (s : String) : List Char := s.toList.map Char.toLower

/-- The domain of a name, whatever the case of its letters. -/
def ofName? (s : String) : Option Domain := all.find? fun d => d.name.toList = foldCase s

/-- The shapes of the kinds of a domain, in the order of their tags. -/
def shapes : Domain → List Shape
  | generic => Generic.shapes
  | discovery => Discovery.shapes
  | ble => Bluetooth.shapes
  | zigbee => Zigbee.shapes
  | esb => ShockBurst.shapes
  | unifying => Unifying.shapes
  | phy => Physical.shapes

/-- The kinds of a domain as they are declared: their names with their tags, in the order of the
shapes. -/
def kinds : Domain → List (String × Nat)
  | generic => Generic.kinds
  | discovery => Discovery.kinds
  | ble => Bluetooth.kinds
  | zigbee => Zigbee.kinds
  | esb => ShockBurst.kinds
  | unifying => Unifying.kinds
  | phy => Physical.kinds

/-- Kinds are declared under the names of their shapes. -/
theorem names_kinds (d : Domain) : d.kinds.map (·.1) = d.shapes.map (·.name) := by
  cases d <;> rfl

theorem length_kinds (d : Domain) : d.kinds.length = d.shapes.length := by
  rw [← List.length_map (·.1), names_kinds, List.length_map]

end Domain

/-! ### Kinds -/

/-- A kind of message of a domain. -/
abbrev Kind (d : Domain) : Type := Fin d.shapes.length

namespace Kind

variable {d : Domain}

/-- Every kind of a domain, in the order of the tags. -/
def all (d : Domain) : List (Kind d) := List.finRange d.shapes.length

/-- What messages of a kind consist of. -/
def shape (k : Kind d) : Shape := d.shapes[k]

/-- The tag by which a kind is known in its domain. -/
def tag (k : Kind d) : Nat := (d.kinds.get (k.cast d.length_kinds.symm)).2

/-- The kind of a tag. -/
def ofTag? (d : Domain) (tag : Nat) : Option (Kind d) := (all d).find? fun k => k.tag = tag

theorem ofTag?_tag (k : Kind d) : ofTag? d k.tag = some k := by
  revert k
  cases d <;> decide

/-- The name of a kind. -/
def name (k : Kind d) : String := k.shape.name

/-- The kind of a name. -/
def ofName? (d : Domain) (s : String) : Option (Kind d) :=
  d.shapes.findFinIdx? fun shape => shape.name = s

end Kind

/-! ### Message types -/

/-- A domain and one of its kinds. -/
structure MessageType where
  /-- The domain. -/
  domain : Domain
  /-- The kind. -/
  kind : Kind domain
  deriving DecidableEq

namespace MessageType

/-- Every message type: the domains in order, and the kinds of each in order. -/
def all : List MessageType := Domain.all.flatMap fun d => (Kind.all d).map fun k => ⟨d, k⟩

/-- What messages of a type consist of. -/
def shape (t : MessageType) : Shape := Kind.shape t.kind

/-- The name of the kind. -/
def kindName (t : MessageType) : String := Kind.name t.kind

/-- The tag of the kind. -/
def kindTag (t : MessageType) : Nat := Kind.tag t.kind

/-- The name of a type: the domain's, and the kind's within it. -/
def name (t : MessageType) : String := t.domain.name ++ "::" ++ t.kindName

/-- The type of a name. -/
def ofName? (s : String) : Option MessageType := all.find? fun t => t.name = s

/-- Types are ordered by domain and then by kind. -/
instance : LE MessageType :=
  ⟨fun a b => a.domain.tag < b.domain.tag ∨ a.domain = b.domain ∧ a.kindTag ≤ b.kindTag⟩

instance (a b : MessageType) : Decidable (a ≤ b) :=
  inferInstanceAs
    (Decidable (a.domain.tag < b.domain.tag ∨ a.domain = b.domain ∧ a.kindTag ≤ b.kindTag))

end MessageType

end RadioFrame
