/-!
# What a switch can be told to install

Byte strings have the width that the program on the switch declares for the field; match
fields and parameters stand in ascending order of their ids.
-/

namespace SwitchAgent.Device

structure FieldMatch where
  fieldId : UInt32
  exact : List UInt8
  deriving DecidableEq, Repr

structure ActionParam where
  paramId : UInt32
  value : List UInt8
  deriving DecidableEq, Repr

structure ActionCall where
  actionId : UInt32
  params : List ActionParam := []
  deriving DecidableEq, Repr

def ActionCall.param (call : ActionCall) (id : UInt32) (value : List UInt8) : ActionCall :=
  { call with params := call.params ++ [⟨id, value⟩] }

structure TableEntry where
  tableId : UInt32
  fields : List FieldMatch := []
  action : Option ActionCall := none
  deriving DecidableEq, Repr

namespace TableEntry

def exact (entry : TableEntry) (id : UInt32) (value : List UInt8) : TableEntry :=
  { entry with fields := entry.fields ++ [⟨id, value⟩] }

/-- The last action given is the entry's. -/
def calling (entry : TableEntry) (call : ActionCall) : TableEntry :=
  { entry with action := some call }

end TableEntry

/-- A copy of a packet, sent out of a port. -/
structure Replica where
  egressPort : UInt32
  instanceId : UInt32
  deriving DecidableEq, Repr

structure MulticastGroup where
  groupId : UInt32
  replicas : List Replica
  deriving DecidableEq, Repr

structure CloneSession where
  sessionId : UInt32
  replicas : List Replica
  classOfService : UInt32
  /-- Clones are cut to this length; zero clones the whole packet. -/
  packetLength : Int32
  deriving DecidableEq, Repr

structure DigestConfig where
  maxTimeout : Int64
  maxListSize : Int32
  ackTimeout : Int64
  deriving DecidableEq, Repr

structure DigestEntry where
  digestId : UInt32
  config : DigestConfig
  deriving DecidableEq, Repr

inductive Entity where
  | table (entry : TableEntry)
  | multicast (group : MulticastGroup)
  | clone (session : CloneSession)
  | digest (entry : DigestEntry)
  deriving DecidableEq, Repr

end SwitchAgent.Device
