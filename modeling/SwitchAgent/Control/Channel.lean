import SwitchAgent.Action
import SwitchAgent.Device.Message
import SwitchAgent.Pipeline.Catalog

/-!
# Channels to a switch

A channel carries what the controller asks of a switch and hands out what the switch reports.
Every call may fail.
-/

namespace SwitchAgent.Control

open Device Pipeline

class Channel (C : Type) where
  deviceId : C → UInt64
  /-- The election id that this controller announces. -/
  electionId : C → UInt64
  /-- Ask to become the switch's primary controller. -/
  announce : Action C (Except Fault Unit)
  /-- Put a program on the switch. -/
  configure : Catalog → List UInt8 → Action C (Except Fault Unit)
  write : WriteRequest → Action C (Except Fault Unit)
  /-- The next message, or none once the switch has closed the stream. -/
  read : Action C (Except Fault (Option Message))
  /-- Acknowledge a list of digests. -/
  acknowledge : UInt32 → UInt64 → Action C (Except Fault Unit)

/-- A request with nothing in it yet. -/
def Channel.emptyRequest {C : Type} [Channel C] (channel : C) : WriteRequest :=
  .empty (deviceId channel) (electionId channel)

/-- Install entities all at once. -/
def Channel.insertAll {C : Type} [Channel C] (entities : List Entity) :
    Action C (Except Fault Unit) := do
  write ((emptyRequest (← Action.get)).insertAll entities)

/-- Install batches, each for its purpose. One that fails does not keep the others from being
tried. -/
def Channel.installAll {C : Type} [Channel C] : List (String × List Entity) → Action C Unit
  | [] => return
  | (what, entities) :: rest => do
    match ← insertAll entities with
    | .ok _ => installAll rest
    | .error fault => do
      Action.warn s!"Installing {what} failed: {fault.message}"
      installAll rest

end SwitchAgent.Control
