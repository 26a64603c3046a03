import SwitchAgent.Agent.CommandLine
import SwitchAgent.Agent.Feature
import SwitchAgent.Control.LineSession
import SwitchAgent.Control.Plane
import SwitchAgent.Settings.Load
import SwitchAgent.Telemetry.RuleFile

/-!
# Runs of the agent

Everything the agent needs is read before it connects, and every feature is ready before it
announces itself. Then the control plane follows the stream.
-/

namespace SwitchAgent.Agent

open Control Network Pipeline Telemetry

/-- Why a run failed. -/
inductive Failure where
  | settings
  | catalog (cause : Fault)
  | program (cause : Fault)
  | fault (cause : Fault)
  deriving DecidableEq, Repr

def Failure.message : Failure → String
  | .settings => "Failed to load settings"
  | .catalog _ => "Failed to load P4 Info"
  | .program _ => "Failed to load device config"
  | .fault cause => cause.message

/-- What the agent finds when it is started. -/
structure World where
  files : Files
  environment : List (String × String)
  network : Network
  reader : Settings.Reader := .tomlOnly

abbrev AgentPlane := Plane (Feature BrokerPublisher) LineSession

/-- What is read before anything is done. -/
structure Inputs where
  settings : Settings
  catalog : Catalog
  program : List UInt8
  rules : RuleTable

variable {σ : Type}

def failingWith {α : Type} (failure : Fault → Failure) (action : Action σ (Except Fault α)) :
    ExceptT Failure (Action σ) α :=
  ExceptT.mk do return (← action).mapError failure

def readInputs (c : CommandLine) (world : World) : ExceptT Failure (Action σ) Inputs := do
  match Settings.load world.files c.settings world.environment world.reader with
  | none => throw .settings
  | some settings => do
    let catalog ← failingWith .catalog (Catalog.load world.files c.catalog)
    let program ← failingWith .program (loadProgram world.files c.program)
    let rules ← failingWith .fault (RuleTable.load world.files c.rules)
    return { settings, catalog, program, rules }

/-- Connect, and make the features. -/
def prepare (c : CommandLine) (network : Network) (inputs : Inputs) :
    ExceptT Failure (Action σ) (LineSession × List (Feature BrokerPublisher)) := do
  let session ← failingWith .fault <|
    LineSession.connect network c.switchAddress c.deviceId c.electionId
  let learning ← failingWith .fault <|
    Learning.Controller.create inputs.catalog inputs.settings.profile
  let stream ← ExceptT.lift (FrameStream.connect network (c.reportAddress.getD ""))
  let publisher ← ExceptT.lift (BrokerPublisher.create c.broker)
  let telemetry ← failingWith .fault <|
    Telemetry.Controller.create inputs.catalog c.asAddress c.nodeId inputs.rules
      inputs.settings.profile publisher stream
  return (session, [.fallback {}, .learning learning, .telemetry telemetry])

/-- Stack the features, the first one at the bottom, and follow the stream. -/
def control (c : CommandLine) (features : List (Feature BrokerPublisher)) :
    Action AgentPlane (Option (Except Fault Unit)) := do
  for feature in features do
    Plane.add feature
  Action.info <| s!"Controlling device {c.deviceId} at {c.switchAddress} as node " ++
    s!"{Text.hex c.nodeId.toNat} of AS {c.asAddress}"
  Plane.run ((← Action.get).channel.horizon + 1)

/-- What is left of a run. -/
structure Ending where
  failure : Option Failure := none
  /-- What was sent to the switch. -/
  sent : List UInt8 := []
  /-- What was sent down the stream of reports. -/
  reported : List UInt8 := []

/-- What the process exits with. -/
def Ending.exitCode (ending : Ending) : UInt32 :=
  if ending.failure.isSome then 1 else 0

def reportedBy : Feature BrokerPublisher → List UInt8
  | .telemetry c => c.stream.link.delivered
  | _ => []

def Ending.ofPlane (plane : AgentPlane) (result : Option (Except Fault Unit)) : Ending where
  failure := match result with
    | some (.error fault) => some (.fault fault)
    | _ => none
  sent := plane.channel.link.delivered
  reported := plane.stack.flatMap reportedBy

def run (c : CommandLine) (world : World) : Action σ Ending := do
  let started ← ExceptT.run do
    let inputs ← readInputs c world
    return (inputs, ← prepare c world.network inputs)
  match started with
  | .error failure => return { failure := some failure }
  | .ok (inputs, session, features) => do
    let plane : AgentPlane :=
      { channel := session, catalog := inputs.catalog, program := inputs.program }
    let (plane, result) ← (control c features).aside plane
    return .ofPlane plane result

/-- Run for a list of arguments. If they ask for nothing, nothing is done. -/
def runArguments (arguments : List String) (world : World) : Action σ Ending :=
  match CommandLine.parse arguments with
  | none => return {}
  | some c => run c world

end SwitchAgent.Agent
