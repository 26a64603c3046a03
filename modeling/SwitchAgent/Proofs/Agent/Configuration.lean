import SwitchAgent.Agent.Run

/-!
# The agent as it is configured

What the agent is told when it is started makes its stack, together with the places where its
reports go.
-/

namespace SwitchAgent

open Control Device Pipeline

namespace Agent

/-- Where reports go. -/
structure Outlets (P : Type) where
  publisher : P
  stream : Telemetry.FrameStream

/-- A report goes out once in either way. -/
def Outlets.report {P : Type} [Telemetry.Publisher P] (outlets : Outlets P) (nodeId : UInt32)
    (packet : Telemetry.Packet) : Outlets P where
  publisher := (Telemetry.Publisher.publish (packet.topic nodeId) packet.flowKey.encode
    packet.toReport.encode outlets.publisher).state
  stream := (Telemetry.FrameStream.send packet.toReport.encode outlets.stream).state

/-- What the agent is told when it is started, once its features have found their ids. -/
structure Configuration where
  catalog : Catalog
  program : List UInt8
  profile : Profile
  host : IsdAs
  nodeId : UInt32
  rules : Telemetry.RuleTable
  digestId : UInt32
  counterId : UInt32
  digest : catalog.digestId Learning.Controller.digestName = some digestId
  counter : catalog.counterId Telemetry.Controller.counterName = some counterId

namespace Configuration

variable {P C : Type} (c : Configuration)

def learning : Learning.Controller :=
  ⟨c.digestId, c.profile.ports.toNat⟩

def telemetry (outlets : Outlets P) : Telemetry.Controller P :=
  ⟨c.counterId, c.host, c.nodeId, c.rules, c.profile, outlets.publisher, outlets.stream⟩

/-- The features, the bottom of the stack first. -/
def stack (outlets : Outlets P) : List (Feature P) :=
  [.fallback {}, .learning c.learning, .telemetry (c.telemetry outlets)]

def plane (outlets : Outlets P) (channel : C) : Plane (Feature P) C where
  channel := channel
  catalog := c.catalog
  program := c.program
  stack := c.stack outlets

@[simp] theorem plane_channel (outlets : Outlets P) (channel : C) :
    (c.plane outlets channel).channel = channel := rfl

@[simp] theorem plane_stack (outlets : Outlets P) (channel : C) :
    (c.plane outlets channel).stack = c.stack outlets := rfl

end Configuration

section Prepare

variable {σ : Type}

theorem created_learning {catalog : Catalog} {profile : Profile} {s : σ}
    {l : Learning.Controller} (h : (Learning.Controller.create catalog profile s).value = .ok l) :
    catalog.digestId Learning.Controller.digestName = some l.digestId ∧
      l.ports = profile.ports.toNat := by
  cases known : catalog.digestId Learning.Controller.digestName with
  | none => simp [Learning.Controller.create, known] at h
  | some digestId =>
    simp only [Learning.Controller.create, known] at h
    cases h
    exact ⟨rfl, rfl⟩

theorem created_telemetry {P : Type} {catalog : Catalog} {host : String} {nodeId : UInt32}
    {rules : Telemetry.RuleTable} {profile : Profile} {publisher : P}
    {stream : Telemetry.FrameStream} {s : σ} {t : Telemetry.Controller P}
    (h : (Telemetry.Controller.create catalog host nodeId rules profile publisher stream s).value =
      .ok t) :
    ∃ counterId isdAs, catalog.counterId Telemetry.Controller.counterName = some counterId ∧
      IsdAs.parse host = .ok isdAs ∧
      t = ⟨counterId, isdAs, nodeId, rules, profile, publisher, stream⟩ := by
  cases known : catalog.counterId Telemetry.Controller.counterName with
  | none => simp [Telemetry.Controller.create, known] at h
  | some counterId =>
    cases parsed : IsdAs.parse host with
    | error fault => simp [Telemetry.Controller.create, known, parsed] at h
    | ok isdAs =>
      simp only [Telemetry.Controller.create, known, parsed] at h
      cases h
      exact ⟨counterId, isdAs, rfl, rfl, rfl⟩

end Prepare

end Agent

end SwitchAgent
