import SwitchAgent.Proofs.Agent.Configuration
import SwitchAgent.Proofs.Session.Delivery
import SwitchAgent.Proofs.Settings.Sources

/-!
# Starting

A start takes everything it needs or stops, and nothing is sent before it has all of it. The server
for reports is not needed: whatever its address, there is a stream or there is none.
-/

namespace SwitchAgent

open Control Device Network Pipeline

section Read

variable {σ : Type} {files : Files} {path : String} {s : σ}

theorem Pipeline.Catalog.load_ok_iff {catalog : Catalog} :
    (Catalog.load files path s).value = .ok catalog ↔
      ∃ text, files.text path = .ok text ∧ Catalog.ofText? text = some catalog := by
  cases read : files.text path with
  | error cause => simp [Catalog.load, read]
  | ok text =>
    cases parsed : Catalog.ofText? text <;>
      simp [Catalog.load, Catalog.parse, read, parsed, Action.debug]

theorem Pipeline.loadProgram_ok_iff {program : List UInt8} :
    (loadProgram files path s).value = .ok program ↔ files.find path = some program := by
  cases found : files.find path <;> simp [loadProgram, Files.bytes, found, Action.debug]

theorem Telemetry.RuleTable.load_ok_iff {rules : Telemetry.RuleTable} :
    (Telemetry.RuleTable.load files path s).value = .ok rules ↔
      ∃ text, files.text path = .ok text ∧ Telemetry.RuleTable.parse text = .ok rules := by
  cases read : files.text path with
  | error cause => simp [Telemetry.RuleTable.load, read]
  | ok text =>
    cases parsed : Telemetry.RuleTable.parse text <;>
      simp [Telemetry.RuleTable.load, read, parsed, Action.debug]

theorem Control.LineSession.connect_ok_iff {network : Network} {address : String}
    {deviceId electionId : UInt64} {session : LineSession} :
    (LineSession.connect network address deviceId electionId s).value = .ok session ↔
      ∃ endpoint incoming refuses, Endpoint.ofSocketAddress address = .ok endpoint ∧
        network endpoint = .connected incoming refuses ∧
        session = LineSession.opened deviceId electionId incoming { refuses } := by
  cases split : Endpoint.ofSocketAddress address with
  | error cause => simp [LineSession.connect, split, Action.debug]
  | ok endpoint =>
    cases reached : network endpoint <;>
      simp [LineSession.connect, split, reached, Action.debug, Action.info, LineSession.opened,
        eq_comm]

end Read

namespace Agent

section Steps

variable {σ ε α β : Type}

/-- Where a whole does not fail, nor does what comes first. -/
theorem run_bind_ok_iff {first : ExceptT ε (Action σ) α} {next : α → ExceptT ε (Action σ) β}
    {s : σ} {b : β} :
    ((first >>= next).run s).value = .ok b ↔
      ∃ a, (first.run s).value = .ok a ∧ ((next a).run (first.run s).state).value = .ok b := by
  rw [ExceptT.run_bind]
  cases result : (first.run s).value <;> simp [result]

theorem run_failingWith_ok_iff {failure : Fault → Failure} {action : Action σ (Except Fault α)}
    {s : σ} {a : α} :
    ((failingWith failure action).run s).value = .ok a ↔ (action s).value = .ok a := by
  have value : ((failingWith failure action).run s).value =
      (action s).value.mapError failure := by
    simp [failingWith]
  rw [value]
  cases (action s).value <;> simp [Except.mapError]

end Steps

variable {σ : Type} {line : CommandLine} {world : World}

/-- What is read where all of it can be. -/
structure Reads (line : CommandLine) (world : World) (inputs : Inputs) : Prop where
  settings : Settings.load world.files line.settings world.environment world.reader =
    some inputs.settings
  catalog : ∃ text, world.files.text line.catalog = .ok text ∧
    Catalog.ofText? text = some inputs.catalog
  program : world.files.find line.program = some inputs.program
  rules : ∃ text, world.files.text line.rules = .ok text ∧
    Telemetry.RuleTable.parse text = .ok inputs.rules

theorem readInputs_ok_iff {inputs : Inputs} {s : σ} :
    ((readInputs line world).run s).value = .ok inputs ↔ Reads line world inputs := by
  cases loaded : Settings.load world.files line.settings world.environment world.reader with
  | none =>
    constructor
    · simp [readInputs, loaded]
    · rintro ⟨found, -⟩
      rw [loaded] at found
      cases found
  | some settings =>
    have start : (readInputs line world : ExceptT Failure (Action σ) Inputs) = (do
        let catalog ← failingWith .catalog (Catalog.load world.files line.catalog)
        let program ← failingWith .program (loadProgram world.files line.program)
        let rules ← failingWith .fault (Telemetry.RuleTable.load world.files line.rules)
        return { settings, catalog, program, rules }) := by
      rw [readInputs, loaded]
    rw [start]
    simp only [run_bind_ok_iff, run_failingWith_ok_iff, Catalog.load_ok_iff, loadProgram_ok_iff,
      Telemetry.RuleTable.load_ok_iff]
    constructor
    · rintro ⟨catalog, parsed, program, found, rules, read, made⟩
      cases made
      exact ⟨loaded, parsed, found, read⟩
    · rintro ⟨same, parsed, found, read⟩
      cases loaded.symm.trans same
      exact ⟨_, parsed, _, found, _, read, rfl⟩

/-- What is made of what was read: a configuration, and a connection to the switch. -/
structure Prepares (line : CommandLine) (world : World) (inputs : Inputs) (c : Configuration)
    (incoming : List UInt8) (refuses : Nat → Bool) : Prop where
  catalog : c.catalog = inputs.catalog
  program : c.program = inputs.program
  profile : c.profile = inputs.settings.profile
  rules : c.rules = inputs.rules
  connection : ∃ endpoint, Endpoint.ofSocketAddress line.switchAddress = .ok endpoint ∧
    world.network endpoint = .connected incoming refuses
  host : IsdAs.parse line.asAddress = .ok c.host
  nodeId : c.nodeId = line.nodeId

/-- Nothing is amiss on a start. -/
def Starts (line : CommandLine) (world : World) (c : Configuration) (incoming : List UInt8)
    (refuses : Nat → Bool) : Prop :=
  ∃ inputs, Reads line world inputs ∧ Prepares line world inputs c incoming refuses

/-- Something that keeps the agent from starting. -/
inductive Obstacle (line : CommandLine) (world : World) : Prop
  | settingsFile (missing : ∀ layer,
      ¬ Settings.Says world.reader world.files line.settings layer)
  | setting {layer : Settings.Layer}
      (said : Settings.Says world.reader world.files line.settings layer) (f : Settings.Field)
      (missing : f.coerce (Settings.settled world.reader layer world.environment f) = none)
  | catalog (missing : ∀ text, world.files.text line.catalog = .ok text →
      Catalog.ofText? text = none)
  | program (missing : world.files.find line.program = none)
  | rules (missing : ∀ text rules, world.files.text line.rules = .ok text →
      Telemetry.RuleTable.parse text ≠ .ok rules)
  | connection (missing : ∀ endpoint incoming refuses,
      Endpoint.ofSocketAddress line.switchAddress = .ok endpoint →
        world.network endpoint ≠ .connected incoming refuses)
  | digest {text : String} {catalog : Catalog} (read : world.files.text line.catalog = .ok text)
      (parsed : Catalog.ofText? text = some catalog)
      (missing : catalog.digestId Learning.Controller.digestName = none)
  | counter {text : String} {catalog : Catalog} (read : world.files.text line.catalog = .ok text)
      (parsed : Catalog.ofText? text = some catalog)
      (missing : catalog.counterId Telemetry.Controller.counterName = none)
  | host (missing : ∀ host, IsdAs.parse line.asAddress ≠ .ok host)

theorem Obstacle.not_starts (obstacle : Obstacle line world) {c : Configuration}
    {incoming : List UInt8} {refuses : Nat → Bool} :
    ¬ Starts line world c incoming refuses := by
  intro starts
  obtain ⟨inputs, ⟨loaded, ⟨text, read, parsed⟩, found, ⟨rulesText, rulesRead, rules⟩⟩,
    sameCatalog, -, -, -, ⟨endpoint, split, reached⟩, host, -⟩ := starts
  rw [← sameCatalog] at parsed
  cases obstacle with
  | settingsFile missing => cases loaded.symm.trans (Settings.load_of_nothing_said missing)
  | setting said f missing =>
    cases missing.symm.trans (Settings.coerce_settled_of_load said loaded f)
  | catalog missing =>
    rw [missing text read] at parsed
    cases parsed
  | program missing =>
    rw [found] at missing
    cases missing
  | rules missing => exact missing rulesText _ rulesRead rules
  | connection missing => exact missing endpoint incoming refuses split reached
  | digest readToo parsedToo missing =>
    cases readToo.symm.trans read
    cases parsedToo.symm.trans parsed
    cases missing.symm.trans c.digest
  | counter readToo parsedToo missing =>
    cases readToo.symm.trans read
    cases parsedToo.symm.trans parsed
    cases missing.symm.trans c.counter
  | host missing => exact missing c.host host

/-- Where no obstacle stands, each thing that a start needs is there. -/
theorem exists_starts (free : ¬ Obstacle line world) :
    ∃ c incoming refuses, Starts line world c incoming refuses := by
  obtain ⟨layer, said⟩ : ∃ layer,
      Settings.Says world.reader world.files line.settings layer := by
    refine Classical.byContradiction fun bad => free (.settingsFile fun layer said => ?_)
    exact bad ⟨layer, said⟩
  obtain ⟨settings, loaded⟩ := Settings.exists_load_iff.mpr ⟨layer, said, fun f =>
    Option.isSome_iff_ne_none.mpr fun missing => free (.setting said f missing)⟩
  obtain ⟨text, read, catalog, parsed⟩ : ∃ text, world.files.text line.catalog = .ok text ∧
      ∃ catalog, Catalog.ofText? text = some catalog := by
    refine Classical.byContradiction fun bad => free (.catalog fun text read => ?_)
    refine Option.eq_none_iff_forall_ne_some.mpr fun catalog parsed => ?_
    exact bad ⟨text, read, catalog, parsed⟩
  obtain ⟨program, found⟩ := Option.ne_none_iff_exists'.mp fun missing =>
    free (.program missing)
  obtain ⟨rulesText, rulesRead, rules, rulesParsed⟩ : ∃ text,
      world.files.text line.rules = .ok text ∧
        ∃ rules, Telemetry.RuleTable.parse text = .ok rules := by
    refine Classical.byContradiction fun bad => free (.rules fun text rules read parsed => ?_)
    exact bad ⟨text, read, rules, parsed⟩
  obtain ⟨endpoint, split, incoming, refuses, reached⟩ : ∃ endpoint,
      Endpoint.ofSocketAddress line.switchAddress = .ok endpoint ∧
        ∃ incoming refuses, world.network endpoint = .connected incoming refuses := by
    refine Classical.byContradiction fun bad =>
      free (.connection fun endpoint incoming refuses split reached => ?_)
    exact bad ⟨endpoint, split, incoming, refuses, reached⟩
  obtain ⟨digestId, digest⟩ := Option.ne_none_iff_exists'.mp fun missing =>
    free (.digest read parsed missing)
  obtain ⟨counterId, counter⟩ := Option.ne_none_iff_exists'.mp fun missing =>
    free (.counter read parsed missing)
  obtain ⟨host, known⟩ : ∃ host, IsdAs.parse line.asAddress = .ok host := by
    refine Classical.byContradiction fun bad => free (.host fun host known => ?_)
    exact bad ⟨host, known⟩
  exact ⟨⟨catalog, program, settings.profile, host, line.nodeId, rules, digestId, counterId,
    digest, counter⟩, incoming, refuses, ⟨settings, catalog, program, rules⟩,
    ⟨loaded, ⟨text, read, parsed⟩, found, ⟨rulesText, rulesRead, rulesParsed⟩⟩,
    ⟨rfl, rfl, rfl, rfl, ⟨endpoint, split, reached⟩, known, rfl⟩⟩

/-- An obstacle is the one thing that keeps the agent from starting. -/
theorem obstacle_iff : Obstacle line world ↔ ¬ ∃ c incoming refuses,
    Starts line world c incoming refuses := by
  constructor
  · rintro obstacle ⟨c, incoming, refuses, starts⟩
    exact obstacle.not_starts starts
  · intro none
    exact Classical.byContradiction fun free => none (exists_starts free)

/-- The stream of reports that there is, if any. -/
def reportStream (line : CommandLine) (world : World) : Telemetry.FrameStream :=
  (Telemetry.FrameStream.connect world.network (line.reportAddress.getD "") ()).value

theorem frameStream_connect_value (network : Network) (address : String) (s : σ) :
    (Telemetry.FrameStream.connect network address s).value =
      (Telemetry.FrameStream.connect network address ()).value := by
  unfold Telemetry.FrameStream.connect
  split
  · rfl
  · cases split : Endpoint.split address with
    | error fault => simp [Action.warn]
    | ok endpoint => cases reached : network endpoint <;> simp [reached, Action.warn, Action.info]

/-- Reports are only logged where there is no broker. -/
def loggedOnly (line : CommandLine) (world : World) : Outlets Telemetry.BrokerPublisher :=
  ⟨.log ⟨"log", 0⟩, reportStream line world⟩

theorem create_learning_ok_iff {catalog : Catalog} {profile : Profile} {l : Learning.Controller}
    {s : σ} :
    (Learning.Controller.create catalog profile s).value = .ok l ↔
      catalog.digestId Learning.Controller.digestName = some l.digestId ∧
        l.ports = profile.ports.toNat := by
  constructor
  · exact created_learning
  · rintro ⟨known, ports⟩
    simp [Learning.Controller.create, known, Action.debug, ← ports]

theorem create_telemetry_ok_iff {P : Type} {catalog : Catalog} {host : String} {nodeId : UInt32}
    {rules : Telemetry.RuleTable} {profile : Profile} {publisher : P}
    {stream : Telemetry.FrameStream} {t : Telemetry.Controller P} {s : σ} :
    (Telemetry.Controller.create catalog host nodeId rules profile publisher stream s).value =
        .ok t ↔
      ∃ counterId isdAs, catalog.counterId Telemetry.Controller.counterName = some counterId ∧
        IsdAs.parse host = .ok isdAs ∧
        t = ⟨counterId, isdAs, nodeId, rules, profile, publisher, stream⟩ := by
  constructor
  · exact created_telemetry
  · rintro ⟨counterId, isdAs, known, parsed, rfl⟩
    simp [Telemetry.Controller.create, known, parsed, Action.debug]

theorem run_lift_ok_iff {ε α : Type} {action : Action σ α} {s : σ} {a : α} :
    (((ExceptT.lift action : ExceptT ε (Action σ) α)).run s).value = .ok a ↔
      (action s).value = a := by
  simp [ExceptT.lift, ExceptT.run, ExceptT.mk]

theorem prepare_ok_iff {inputs : Inputs} {session : LineSession}
    {features : List (Feature Telemetry.BrokerPublisher)} {s : σ} (noBroker : line.broker = "") :
    ((prepare line world.network inputs).run s).value = .ok (session, features) ↔
      ∃ c incoming refuses, Prepares line world inputs c incoming refuses ∧
        session = LineSession.opened line.deviceId line.electionId incoming { refuses } ∧
        features = c.stack (loggedOnly line world) := by
  simp only [prepare, run_bind_ok_iff, run_failingWith_ok_iff, LineSession.connect_ok_iff,
    create_learning_ok_iff, create_telemetry_ok_iff, run_lift_ok_iff]
  constructor
  · rintro ⟨_, ⟨endpoint, incoming, refuses, split, reached, rfl⟩, learning, ⟨digest, ports⟩, stream,
      connected, publisher, created, _, ⟨counterId, host, counter, parsed, rfl⟩, made⟩
    cases made
    rw [frameStream_connect_value] at connected
    have logs : publisher = .log ⟨"log", 0⟩ := by
      rw [← created, noBroker]
      rfl
    refine ⟨⟨inputs.catalog, inputs.program, inputs.settings.profile, host, line.nodeId,
      inputs.rules, learning.digestId, counterId, digest, counter⟩, incoming, refuses,
      ⟨rfl, rfl, rfl, rfl, ⟨endpoint, split, reached⟩, parsed, rfl⟩, rfl, ?_⟩
    simp [Configuration.stack, Configuration.learning, Configuration.telemetry, loggedOnly,
      reportStream, ← connected, logs, ← ports]
  · rintro ⟨c, incoming, refuses, ⟨catalog, program, profile, rules, ⟨endpoint, split, reached⟩,
      host, nodeId⟩, rfl, rfl⟩
    refine ⟨_, ⟨endpoint, incoming, refuses, split, reached, rfl⟩, c.learning, ⟨?_, ?_⟩, _, rfl, _,
      rfl, _, ⟨c.counterId, c.host, ?_, host, rfl⟩, ?_⟩
    · rw [← catalog]
      exact c.digest
    · rw [← profile]
      rfl
    · rw [← catalog]
      exact c.counter
    · have logs (s : σ) : (Telemetry.BrokerPublisher.create "" s).value = .log ⟨"log", 0⟩ := rfl
      rw [frameStream_connect_value]
      simp [Configuration.stack, Configuration.telemetry, loggedOnly, reportStream, nodeId, rules,
        profile, noBroker, logs]

/-- All that comes before the agent announces itself. -/
def start (line : CommandLine) (world : World) : ExceptT Failure (Action σ)
    (Inputs × LineSession × List (Feature Telemetry.BrokerPublisher)) := do
  let inputs ← readInputs line world
  return (inputs, ← prepare line world.network inputs)

theorem start_ok_iff {made : Inputs × LineSession × List (Feature Telemetry.BrokerPublisher)}
    (noBroker : line.broker = "") (s : σ) :
    ((start line world).run s).value = .ok made ↔
      ∃ inputs c incoming refuses, Reads line world inputs ∧
        Prepares line world inputs c incoming refuses ∧
        made = (inputs, LineSession.opened line.deviceId line.electionId incoming { refuses },
          c.stack (loggedOnly line world)) := by
  simp only [start, run_bind_ok_iff, readInputs_ok_iff]
  constructor
  · rintro ⟨inputs, reads, ⟨session, features⟩, prepared, result⟩
    obtain ⟨c, incoming, refuses, prepares, rfl, rfl⟩ := (prepare_ok_iff noBroker).mp prepared
    cases result
    exact ⟨inputs, c, incoming, refuses, reads, prepares, rfl⟩
  · rintro ⟨inputs, c, incoming, refuses, reads, prepares, rfl⟩
    exact ⟨inputs, reads, _,
      (prepare_ok_iff noBroker).mpr ⟨c, incoming, refuses, prepares, rfl, rfl⟩, rfl⟩

theorem run_not_started {failure : Failure} {s : σ}
    (fails : ((start line world).run s).value = .error failure) :
    (Agent.run line world s).value = { failure := some failure } := by
  rw [start] at fails
  simp only [Agent.run, Action.bind_apply, fails]
  rfl

theorem run_started {inputs : Inputs} {session : LineSession}
    {features : List (Feature Telemetry.BrokerPublisher)} {s : σ}
    (succeeds : ((start line world).run s).value = .ok (inputs, session, features)) :
    let controlled := control line features
      { channel := session, catalog := inputs.catalog, program := inputs.program }
    (Agent.run line world s).value = .ofPlane controlled.state controlled.value := by
  rw [start] at succeeds
  simp only [Agent.run, Action.bind_apply, succeeds]
  rfl

/-- With an obstacle in the way nothing is sent. -/
theorem run_of_obstacle (noBroker : line.broker = "") (obstacle : Obstacle line world) (s : σ) :
    (Agent.run line world s).value.exitCode = 1 ∧ (Agent.run line world s).value.sent = [] := by
  cases result : ((start line world).run s).value with
  | error failure =>
    rw [run_not_started result]
    exact ⟨rfl, rfl⟩
  | ok made =>
    obtain ⟨inputs, c, incoming, refuses, reads, prepares, -⟩ :=
      (start_ok_iff noBroker s).mp result
    exact absurd ⟨inputs, reads, prepares⟩ obstacle.not_starts

/-- The features are stacked, and the plane is run for as long as there is something to read. -/
theorem control_of_stack (line : CommandLine) (c : Configuration)
    (outlets : Outlets Telemetry.BrokerPublisher) (session : LineSession) :
    let controlled := control line (c.stack outlets)
      { channel := session, catalog := c.catalog, program := c.program }
    let runs := Plane.run (session.horizon + 1) (c.plane outlets session)
    controlled.value = runs.value ∧ controlled.state = runs.state := by
  simp [control, Configuration.stack, Configuration.plane, Plane.add, Action.debug, Action.info]

theorem run_of_starts {c : Configuration} {incoming : List UInt8} {refuses : Nat → Bool}
    (noBroker : line.broker = "") (starts : Starts line world c incoming refuses) (s : σ) :
    let session := LineSession.opened line.deviceId line.electionId incoming { refuses }
    let runs := Plane.run (session.horizon + 1) (c.plane (loggedOnly line world) session)
    (Agent.run line world s).value = .ofPlane runs.state runs.value := by
  intro session runs
  obtain ⟨inputs, reads, prepares⟩ := starts
  have started := (start_ok_iff noBroker s).mpr
    ⟨inputs, c, incoming, refuses, reads, prepares, rfl⟩
  obtain ⟨value, state⟩ := control_of_stack line c (loggedOnly line world) session
  rw [run_started started, ← prepares.catalog, ← prepares.program, value, state]

end Agent

end SwitchAgent
