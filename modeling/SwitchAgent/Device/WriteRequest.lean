import SwitchAgent.Device.Entity

/-!
# Batches of updates

A write request names the device and the controller's election id and lists updates in the
order in which the switch applies them.
-/

namespace SwitchAgent.Device

inductive UpdateType where
  | insert
  | modify
  | delete
  deriving DecidableEq, Repr

structure Update where
  type : UpdateType
  entity : Entity
  deriving DecidableEq, Repr

/-- An election id in 128 bits. -/
structure ElectionId where
  high : UInt64
  low : UInt64
  deriving DecidableEq, Repr

def ElectionId.ofLow (low : UInt64) : ElectionId :=
  ⟨0, low⟩

inductive Atomicity where
  | continueOnError
  | rollbackOnError
  | dataplaneAtomic
  deriving DecidableEq, Repr

structure WriteRequest where
  deviceId : UInt64
  electionId : ElectionId
  atomicity : Atomicity
  updates : List Update
  deriving DecidableEq, Repr

namespace WriteRequest

def empty (deviceId electionId : UInt64) : WriteRequest where
  deviceId := deviceId
  electionId := .ofLow electionId
  atomicity := .continueOnError
  updates := []

def add (request : WriteRequest) (type : UpdateType) (entity : Entity) : WriteRequest :=
  { request with updates := request.updates ++ [⟨type, entity⟩] }

def insertAll (request : WriteRequest) (entities : List Entity) : WriteRequest :=
  { request with updates := request.updates ++ entities.map (⟨.insert, ·⟩) }

def size (request : WriteRequest) : Nat :=
  request.updates.length

def isEmpty (request : WriteRequest) : Bool :=
  request.updates.isEmpty

end WriteRequest

end SwitchAgent.Device
