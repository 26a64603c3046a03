import SwitchAgent.Address.IsdAs
import SwitchAgent.Bytes.Bitstring
import SwitchAgent.Device.Entity

/-!
# What telemetry installs

Packets for a remote AS get a telemetry header, packets for the local one are cloned to the
controller. Every node names itself, its AS and the use of its links.
-/

namespace SwitchAgent.Telemetry

open Bytes Device

def insertAction : UInt32 := 0x01002001

def cloneAction : UInt32 := 0x01002002

def nodeIdAction : UInt32 := 0x01002003

def linkUseAction : UInt32 := 0x01002004

def asAddressAction : UInt32 := 0x01002005

def destinationTable : UInt32 := 0x02002001

def nodeIdTable : UInt32 := 0x02002002

def linkUseTable : UInt32 := 0x02002003

def asAddressTable : UInt32 := 0x02002004

/-- Packets by their destination. -/
def towards (destination : IsdAs) : TableEntry :=
  (TableEntry.mk destinationTable [] none).exact 1 (Bitstring.encode 2 destination.isd.toNat)
    |>.exact 2 (Bitstring.encode 6 destination.asn.toNat)

def insertEntry (destination : IsdAs) (intBitmask scionBitmask : UInt16) : TableEntry :=
  (towards destination).calling <|
    (ActionCall.mk insertAction []).param 1 (Bitstring.encode 2 intBitmask.toNat)
      |>.param 2 (Bitstring.encode 2 scionBitmask.toNat)

def cloneEntry (destination : IsdAs) : TableEntry :=
  (towards destination).calling ⟨cloneAction, []⟩

/-- An entry of a table that asks only whether a flag is set. -/
def flagged (table : UInt32) : TableEntry :=
  (TableEntry.mk table [] none).exact 1 (Bitstring.encode 1 1)

def nodeIdEntry (nodeId : UInt32) : TableEntry :=
  (flagged nodeIdTable).calling
    ((ActionCall.mk nodeIdAction []).param 1 (Bitstring.encode 4 nodeId.toNat))

def asAddressEntry (asn : UInt64) : TableEntry :=
  (flagged asAddressTable).calling
    ((ActionCall.mk asAddressAction []).param 1 (Bitstring.encode 8 asn.toNat))

def linkUseEntry (port : Nat) (use : UInt32) : TableEntry :=
  ((flagged linkUseTable).exact 2 (Bitstring.encode 2 port)).calling
    ((ActionCall.mk linkUseAction []).param 1 (Bitstring.encode 4 use.toNat))

/-- Clones of whole packets go to the controller's port. -/
def cloneSession (sessionId port : UInt32) : CloneSession :=
  ⟨sessionId, [⟨port, 1⟩], 0, 0⟩

end SwitchAgent.Telemetry
