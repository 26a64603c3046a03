/-!
# Properties of a switch
-/

namespace SwitchAgent.Device

structure Profile where
  /-- Front panel ports, numbered from zero. -/
  ports : UInt32 := 8
  /-- The port by which packets reach the controller. -/
  cpuPort : UInt32 := 128
  cloneSession : UInt32 := 1
  /-- How many ports have an entry for the use of their link. -/
  linkUseEntries : UInt32 := 512
  deriving DecidableEq, Repr

end SwitchAgent.Device
