import SwitchAgent.Control.Controller

/-!
# The control plane

A stack of controllers on one channel. Events are offered from the top of the stack down, until
a controller takes one. Arbitration goes the other way and reaches them all, after the program
has been put on the switch. A fatal fault ends the run; any other costs no more than its event.
-/

namespace SwitchAgent.Control

open Device Pipeline

inductive Phase where
  | unarbitrated
  | running
  | terminated
  deriving DecidableEq, Repr

structure Plane (σ C : Type) where
  channel : C
  catalog : Catalog
  /-- The program that belongs to the catalog. -/
  program : List UInt8
  /-- The controllers, the bottom of the stack first. -/
  stack : List σ := []
  phase : Phase := .unarbitrated

namespace Plane

variable {σ C : Type} [Channel C] [Controller σ C]

/-- A fault that is not fatal counts as if the controller had taken the event. -/
def settle (name : String) : Except Fault Bool → Action C (Except Fault Bool)
  | .ok taken => pure (.ok taken)
  | .error fault =>
    if fault.isFatal then do
      Action.error s!"[{name}] {fault.message}"
      return .error fault
    else do
      Action.warn s!"[{name}] {fault.message}"
      return .ok true

/-- Offer an event to one controller. -/
def offerTo (event : Event) (controller : σ) : Action C (σ × Except Fault Bool) := do
  let (controller, result) ← Controller.handle controller event
  let result ← settle (Controller.name C controller) result
  return (controller, result)

/-- Offer an event to controllers, the last one first. -/
def offer (event : Event) : List σ → Action C (List σ × Except Fault Bool)
  | [] => pure ([], .ok false)
  | controller :: above => do
    let (above, result) ← offer event above
    match result with
    | .ok false => do
      let (controller, result) ← offerTo event controller
      return (controller :: above, result)
    | result => return (controller :: above, result)

/-- Tell one controller of an election. -/
def informOne (update : Arbitration) (controller : σ) : Action C (σ × Except Fault Bool) := do
  let (controller, result) ← Controller.arbitrate controller update
  let result ← settle (Controller.name C controller) (result.map fun _ => true)
  return (controller, result)

/-- Tell controllers of an election, the first one first, up to a fatal fault. -/
def inform (update : Arbitration) : List σ → Action C (List σ × Except Fault Unit)
  | [] => pure ([], .ok ())
  | controller :: above => do
    let (controller, result) ← informOne update controller
    match result with
    | .error fault => return (controller :: above, .error fault)
    | .ok _ => do
      let (above, result) ← inform update above
      return (controller :: above, result)

/-- What an event is called if nobody takes it. -/
def leftOver : Event → String
  | .packet _ => "Packet-in not handled by any controller"
  | .digest list => s!"Digest {list.digestId} not handled by any controller"
  | .idleTimeout _ => "Idle timeout notification not handled by any controller"
  | .error _ => "Stream error not handled by any controller"

def onChannel {α : Type} (action : Action C α) : Action (Plane σ C) α :=
  action.within Plane.channel fun plane channel => { plane with channel }

/-- Let the stack act on the channel. -/
def onStack {α : Type} (act : List σ → Action C (List σ × α)) : Action (Plane σ C) α := do
  let plane ← Action.get
  let (stack, result) ← onChannel (act plane.stack)
  Action.modify fun plane => { plane with stack }
  return result

/-- Put the program on the switch, if this controller was elected. -/
def install (update : Arbitration) : Action (Plane σ C) Unit := do
  if update.isPrimary then
    Action.info "Elected as primary controller"
    let plane ← Action.get
    match ← onChannel (Channel.configure plane.catalog plane.program) with
    | .ok _ => return
    | .error fault => Action.warn s!"Setting pipeline config failed: {fault.message}"
  else
    Action.info "Other controller elected as primary"

/-- Route one message. -/
def dispatch (message : Message) : Action (Plane σ C) (Except Fault Unit) := do
  Action.debug s!"Received {message.text}"
  match message with
  | .arbitration update => do
    install update
    onStack (inform update)
  | .event event => do
    match ← onStack (offer event) with
    | .error fault => return .error fault
    | .ok taken => do
      unless taken do Action.debug (leftOver event)
      return .ok ()
  | .unknown => do
    Action.warn "Unknown data plane event"
    return .ok ()

/-- Put a controller on top of the stack. -/
def add (controller : σ) : Action (Plane σ C) Unit := do
  let plane ← Action.get
  Action.debug <|
    s!"Adding controller {Controller.name C controller} at stack position {plane.stack.length}"
  Action.set { plane with stack := plane.stack ++ [controller] }

/-- The controllers' names, the bottom of the stack first. -/
def names (plane : Plane σ C) : List String :=
  plane.stack.map (Controller.name C)

def enter (phase : Phase) : Action (Plane σ C) Unit :=
  Action.modify fun plane => { plane with phase }

/-- Read and route messages until the stream ends or a fault does. There is no result if that
takes more than `limit` readings. -/
def follow : Nat → Action (Plane σ C) (Option (Except Fault Unit))
  | 0 => return none
  | limit + 1 => do
    match ← onChannel Channel.read with
    | .error fault => return some (.error fault)
    | .ok none => do
      Action.info "Stream channel closed by the switch"
      return some (.ok ())
    | .ok (some message) => do
      match ← dispatch message with
      | .error fault => return some (.error fault)
      | .ok _ => follow limit

/-- Announce this controller and follow the stream. -/
def run (limit : Nat) : Action (Plane σ C) (Option (Except Fault Unit)) := do
  match ← onChannel Channel.announce with
  | .error fault => do
    let deviceId := Channel.deviceId (← Action.get).channel
    Action.error s!"Failed to announce controller to device {deviceId}: {fault.message}"
    enter .terminated
    return some (.error fault)
  | .ok _ => do
    enter .running
    let channel := (← Action.get).channel
    Action.info <| s!"Announced controller for device {Channel.deviceId channel} " ++
      s!"with election id {Channel.electionId channel}"
    let result ← follow limit
    if result.isSome then enter .terminated
    return result

end Plane

end SwitchAgent.Control
