import SwitchAgent.Control.Controller
import SwitchAgent.Device.Profile
import SwitchAgent.Telemetry.Entries
import SwitchAgent.Telemetry.FrameStream
import SwitchAgent.Telemetry.Packet
import SwitchAgent.Telemetry.Publisher
import SwitchAgent.Telemetry.RuleTable

/-!
# Telemetry

An election installs which packets get a telemetry header and which are cloned to the
controller. Clones arrive as packets; each makes one report, which is published and sent down
the stream of reports. What cannot be decoded is left to the other controllers.
-/

namespace SwitchAgent.Telemetry

open Control Device Pipeline

structure Controller (P : Type) where
  counterId : UInt32
  /-- The AS that this switch belongs to. -/
  host : IsdAs
  nodeId : UInt32
  rules : RuleTable
  profile : Profile
  publisher : P
  stream : FrameStream

namespace Controller

variable {P : Type}

def counterName : String := "txCounter"

def create {σ : Type} (catalog : Catalog) (host : String) (nodeId : UInt32) (rules : RuleTable)
    (profile : Profile) (publisher : P) (stream : FrameStream) :
    Action σ (Except Fault (Controller P)) :=
  match catalog.counterId counterName with
  | none => return .error (.missingCounter counterName)
  | some counterId =>
    match IsdAs.parse host with
    | .error fault => return .error fault
    | .ok host => do
      Action.debug s!"tx byte counter id is 0x{Text.hex counterId.toNat}"
      return .ok ⟨counterId, host, nodeId, rules, profile, publisher, stream⟩

/-- The rules for other ASes. -/
def remoteRules (c : Controller P) : List Rule :=
  c.rules.filter fun rule => rule.remote ≠ c.host

def ruleText (rule : Rule) : String :=
  s!"Write INT bitmask 0x{Text.hexPadded 4 rule.intBitmask.toNat} and " ++
    s!"SCION bitmask 0x{Text.hexPadded 4 rule.scionBitmask.toNat} for AS {rule.remote.text}"

def sinkBatch (c : Controller P) : List Entity :=
  [.table (cloneEntry c.host)]

def ruleBatch (rule : Rule) : List Entity :=
  [.table (insertEntry rule.remote rule.intBitmask rule.scionBitmask)]

/-- Node and AS, and for every port that its link is not in use. -/
def nodeBatch (c : Controller P) : List Entity :=
  .table (nodeIdEntry c.nodeId) :: .table (asAddressEntry c.host.asn) ::
    (List.range c.profile.linkUseEntries.toNat).map fun port => .table (linkUseEntry port 0)

def sessionBatch (c : Controller P) : List Entity :=
  [.clone (cloneSession c.profile.cloneSession c.profile.cpuPort)]

/-- What an election installs, batch by batch. -/
def batches (c : Controller P) : List (List Entity) :=
  c.sinkBatch :: (c.remoteRules.map ruleBatch ++ [c.nodeBatch, c.sessionBatch])

variable {C : Type} [Channel C]

def install (c : Controller P) : Action C Unit := do
  Action.info s!"Node serves as sink for AS {c.host.text}"
  for rule in c.remoteRules do
    Action.debug (ruleText rule)
  Channel.installAll (c.batches.map (Prod.mk "INT table entries"))

variable [Publisher P]

/-- Publish the report of a packet and send it down the stream, published or not. -/
def report (c : Controller P) (packet : Packet) : Action C (Controller P) := do
  let key := packet.flowKey
  let topic := packet.topic c.nodeId
  let content := packet.toReport.encode
  Action.debug <|
    s!"INT report for flow 0x{Text.hex key.flowId.toNat} with {packet.hops.length} hops"
  let (publisher, result) ← (Publisher.publish topic key.encode content).aside c.publisher
  match result with
  | .ok _ => pure ()
  | .error fault => Action.warn s!"Failed to send message to topic {topic}: {fault.message}"
  let (stream, _) ← (FrameStream.send content).aside c.stream
  return { c with publisher, stream }

instance : Control.Controller (Controller P) C where
  name _ := "int"
  arbitrate c update := do
    if update.isPrimary then install c
    return (c, .ok ())
  handle c
    | .packet packet =>
      match Packet.decode packet.payload with
      | .error fault => do
        Action.warn s!"Dropping telemetry packet: {fault.message}"
        return (c, .ok false)
      | .ok packet => do
        return (← report c packet, .ok true)
    | _ => return (c, .ok false)

end Controller

end SwitchAgent.Telemetry
