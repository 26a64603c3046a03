import SwitchAgent.Control.Channel

/-!
# Scripted channels

A channel in memory that hands out the messages of a script and remembers every call. A policy
says which calls fail; a call that fails leaves nothing behind but its attempt.
-/

namespace SwitchAgent.Control

open Device Pipeline

inductive Call where
  | announce
  | configure (catalog : Catalog) (program : List UInt8)
  | write (request : WriteRequest)
  | read
  | acknowledge (digestId : UInt32) (listId : UInt64)
  deriving BEq, Repr

structure Attempt where
  call : Call
  fault : Option Fault
  deriving BEq, Repr

/-- Given the calls before it, the fault of a call. -/
abbrev Policy := List Call → Call → Option Fault

structure Script where
  deviceId : UInt64
  electionId : UInt64
  /-- The messages still to be read. -/
  messages : List Message := []
  attempts : List Attempt := []
  policy : Policy := fun _ _ => none

namespace Script

def attempt (call : Call) : Action Script (Except Fault Unit) := do
  let script ← Action.get
  let fault := script.policy (script.attempts.map Attempt.call) call
  Action.set { script with attempts := script.attempts ++ [⟨call, fault⟩] }
  match fault with
  | none => return .ok ()
  | some fault => return .error fault

/-- Take the next message off the script. -/
def nextMessage : Action Script (Option Message) := do
  let script ← Action.get
  match script.messages with
  | [] => return none
  | message :: messages => do
    Action.set { script with messages }
    return some message

instance : Channel Script where
  deviceId := Script.deviceId
  electionId := Script.electionId
  announce := attempt .announce
  configure catalog program := attempt (.configure catalog program)
  write request := attempt (.write request)
  read := do
    match ← attempt .read with
    | .error fault => return .error fault
    | .ok _ => return .ok (← nextMessage)
  acknowledge digestId listId := attempt (.acknowledge digestId listId)

/-- The calls that did not fail, in order. -/
def done (script : Script) : List Call :=
  (script.attempts.filter fun a => a.fault.isNone).map Attempt.call

def announcements (script : Script) : Nat :=
  (script.done.filter fun | .announce => true | _ => false).length

def programs (script : Script) : List (Catalog × List UInt8) :=
  script.done.filterMap fun | .configure catalog program => some (catalog, program) | _ => none

def writes (script : Script) : List WriteRequest :=
  script.done.filterMap fun | .write request => some request | _ => none

def acknowledgements (script : Script) : List (UInt32 × UInt64) :=
  script.done.filterMap fun | .acknowledge digest list => some (digest, list) | _ => none

end Script

/-- Kinds of calls that always fail. -/
structure Refusals where
  announce : Bool := false
  configure : Bool := false
  write : Bool := false
  deriving DecidableEq, Repr

def Refusals.policy (refusals : Refusals) : Policy
  | _, .announce =>
    if refusals.announce then some (.stated .transport "Stream write failed: broken pipe") else none
  | _, .configure _ _ =>
    if refusals.configure then some (.stated .transport "Setting pipeline config failed") else none
  | _, .write _ =>
    if refusals.write then some (.stated .transport "Write request failed") else none
  | _, _ => none

end SwitchAgent.Control
