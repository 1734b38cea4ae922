import RadioFrame.Catalogue.ShockBurst

/-!
Listening to Enhanced ShockBurst nodes: to one by its address, or to all of them.
-/

namespace RadioFrame

/-- Listens to one node or to all. -/
abbrev SniffMode : Type := Body ShockBurst.sniffMode

namespace SniffMode

/-- The channel by which the adapter is asked to choose one itself. -/
def autoChannel : UInt32 := 255

/-- The address that stands for every node. -/
def promiscuousAddress : Payload maxNodeAddressLength :=
  ⟨List.replicate maxNodeAddressLength 255, by simp⟩

/-- Listens to every node on a channel. -/
def promiscuous (channel : UInt32) : SniffMode where
  row := (channel, promiscuousAddress, false, ())
  lawful := rfl

/-- The address listened to. -/
def address (m : SniffMode) : Payload maxNodeAddressLength := m.row.2.1

/-- Whether every node is listened to. -/
def isPromiscuous (m : SniffMode) : Bool := m.address = promiscuousAddress

end SniffMode

end RadioFrame
