import RadioFrame.Catalogue.Bluetooth

/-!
Building commands of the Bluetooth Low Energy domain.
-/

namespace RadioFrame

/-- Starts a connection. -/
abbrev ConnectTo : Type := Body Bluetooth.connectTo

/-- Starts a connection to a device; every parameter of the connection is left to the adapter. -/
def ConnectTo.new (device : BdAddress) (addrType : bleAddrType.Word) : ConnectTo where
  row := (device, addrType, none, none, none, none, none, ())
  lawful := rfl

end RadioFrame
