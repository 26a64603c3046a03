import SwitchAgent.Proofs.Agent.Routing

/-!
# What an election sets up

The calls that an election makes are those of the configuration. Neither what has happened before
nor which calls fail has a part in them.
-/

namespace SwitchAgent.Agent

open SwitchAgent.Action Control Device

namespace Configuration

variable (c : Configuration)

/-- What is installed on an election, batch by batch: a flood group for every port, the broadcast
address, the settings of digests, which packets are cloned to the controller, a rule for every
other AS, what the node is, and the clone session. -/
def batches : List (List Entity) :=
  let ports := c.profile.ports.toNat
  let links := List.range c.profile.linkUseEntries.toNat
  let remote := c.rules.filter fun rule => rule.remote ≠ c.host
  [(List.range ports).map fun port => .multicast (Learning.floodGroup port ports),
    [.table (Learning.learnEntry Learning.broadcast Learning.noAction)],
    [.digest (Learning.immediateDigest c.digestId)],
    [.table (Telemetry.cloneEntry c.host)]] ++
  (remote.map fun rule =>
    [.table (Telemetry.insertEntry rule.remote rule.intBitmask rule.scionBitmask)]) ++
  [.table (Telemetry.nodeIdEntry c.nodeId) :: .table (Telemetry.asAddressEntry c.host.asn) ::
      links.map fun port => .table (Telemetry.linkUseEntry port 0),
    [.clone (Telemetry.cloneSession c.profile.cloneSession c.profile.cpuPort)]]

/-- The calls of an election: the program, and then a write for every batch. -/
def setup (deviceId electionId : UInt64) : List Call :=
  .configure c.catalog c.program :: c.batches.map fun entities =>
    .write ⟨deviceId, ⟨0, electionId⟩, .continueOnError, entities.map (⟨.insert, ·⟩)⟩

variable {P : Type}

theorem batches_of_stack (outlets : Outlets P) :
    (c.stack outlets).flatMap Feature.batches = c.batches := by
  simp only [stack, List.flatMap_cons, List.flatMap_nil, List.append_nil]
  rfl

variable [Telemetry.Publisher P]

theorem dispatch_arbitration_calls (outlets : Outlets P) (script : Script) (update : Arbitration) :
    (Plane.dispatch (.arbitration update) (c.plane outlets script)).state.channel.calls =
      script.calls ++
        if update.status.code = 0 then c.setup script.deviceId script.electionId else [] := by
  rw [(Feature.dispatch_election update (c.plane outlets script)).2]
  by_cases elected : update.status.code = 0
  · have primary := Arbitration.isPrimary_iff.mpr elected
    have start : Plane.afterInstall (c.plane outlets script) update =
        (Script.attempt (.configure c.catalog c.program) script).state := if_pos elected
    have alike := Script.attempt_alike (.configure c.catalog c.program) script
    rw [if_pos primary, if_pos elected, plane_stack, c.batches_of_stack, start,
      Script.after_insertAll_calls, Script.attempt_calls, alike.deviceId, alike.electionId,
      List.append_assoc]
    rfl
  · have other := elected ∘ Arbitration.isPrimary_iff.mp
    have start : Plane.afterInstall (c.plane outlets script) update = script := if_neg elected
    rw [if_neg other, if_neg elected, start, List.append_nil]
    rfl

/-- Every election of this controller succeeds and makes the same calls, whatever has happened
before, by whatever outlets reports go, and whichever calls fail. An election of another controller
makes none. -/
theorem election_calls_depend_on_configuration_only (outlets : Outlets P) (script : Script)
    (history : List Occasion) (update : Arbitration) :
    let plane := after Plane.undergo history (c.plane outlets script)
    let routed := Plane.dispatch (.arbitration update) plane
    routed.value = .ok () ∧
    routed.state.channel.calls = plane.channel.calls ++
      if update.status.code = 0 then c.setup script.deviceId script.electionId else [] := by
  intro plane routed
  have kept (operation : Operation) (s : Script) (alike : Script.Alike s script) :
      Script.Alike (operation.perform s).state script :=
    (Script.perform_alike operation s).trans alike
  have alike : Script.Alike plane.channel script :=
    Plane.history_keeps kept Feature.respected history (Script.Alike.refl script)
  have shape : plane = c.plane (history.foldl c.told outlets) plane.channel :=
    c.after_undergo history outlets script
  constructor
  · exact (Feature.dispatch_election update plane).1
  · have calls := c.dispatch_arbitration_calls (history.foldl c.told outlets) plane.channel update
    rw [← shape, alike.deviceId, alike.electionId] at calls
    exact calls

end Configuration

end SwitchAgent.Agent
