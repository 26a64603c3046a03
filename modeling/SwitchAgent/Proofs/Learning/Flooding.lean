import Mathlib.Data.List.Nodup
import SwitchAgent.Proofs.Agent.Requests

/-!
# Flooding

Packets for an unknown address are copied to all ports but the one by which they came in. An
election sets up a group for every port; the copies of a group are numbered without gaps, although
a port is left out, and no number is too large for its word.
-/

namespace SwitchAgent.Learning

open SwitchAgent.Action Control Device Pipeline

/-- The ports that a packet is copied to. -/
def otherPorts (ingress ports : Nat) : List Nat :=
  (List.range ports).filter (· != ingress)

theorem mem_otherPorts {ingress ports port : Nat} :
    port ∈ otherPorts ingress ports ↔ port < ports ∧ port ≠ ingress := by
  simp [otherPorts]

theorem otherPorts_ascending (ingress ports : Nat) :
    (otherPorts ingress ports).Pairwise (· < ·) :=
  List.pairwise_lt_range.filter _

theorem length_otherPorts (ingress ports : Nat) :
    (otherPorts ingress ports).length = if ingress < ports then ports - 1 else ports := by
  have erased : (List.range ports).erase ingress = otherPorts ingress ports :=
    List.nodup_range.erase_eq_filter ingress
  rw [← erased, List.length_erase, List.length_range]
  simp only [List.mem_range]

theorem length_otherPorts_le (ingress ports : Nat) :
    (otherPorts ingress ports).length ≤ ports := by
  rw [length_otherPorts]
  split <;> omega

theorem egressPorts_replicas (ports : List Nat) :
    (replicas ports).map Replica.egressPort = ports.map UInt32.ofNat := by
  refine List.ext_getElem ?_ ?_
  · simp [replicas]
  · intro i _ _
    simp only [replicas, List.getElem_map, List.getElem_mapIdx]

/-- The count goes on where a port is left out. -/
theorem instanceIds_replicas {ports : List Nat} (few : ports.length ≤ 2 ^ 32) :
    (replicas ports).map (fun replica => replica.instanceId.toNat) = List.range ports.length := by
  refine List.ext_getElem ?_ ?_
  · simp [replicas]
  · intro i _ inside
    rw [List.length_range] at inside
    have fits : i < 2 ^ 32 := by omega
    simp only [replicas, List.getElem_map, List.getElem_mapIdx, List.getElem_range]
    exact Nat.mod_eq_of_lt fits

/-- A group for what comes in by one port: every other port gets one copy, in ascending order, and
the copies are numbered from zero on. -/
structure FloodsBut (ingress ports : Nat) (group : MulticastGroup) : Prop where
  id : group.groupId.toNat = ingress + 1
  reaches : ∀ port : UInt32, port ∈ group.replicas.map Replica.egressPort ↔
    port.toNat < ports ∧ port.toNat ≠ ingress
  ascending : (group.replicas.map Replica.egressPort).Pairwise (· < ·)
  numbered : group.replicas.map (fun replica => replica.instanceId.toNat) =
    List.range (if ingress < ports then ports - 1 else ports)

theorem floodsBut_floodGroup {ingress ports : Nat} (valid : ingress < 2 ^ 32 - 1)
    (few : ports < 2 ^ 32) : FloodsBut ingress ports (floodGroup ingress ports) := by
  have copies : (floodGroup ingress ports).replicas = replicas (otherPorts ingress ports) := rfl
  have narrow : ∀ port ∈ otherPorts ingress ports, port < 2 ^ 32 := by
    intro port among
    have below := (mem_otherPorts.mp among).1
    omega
  constructor
  case id =>
    exact Nat.mod_eq_of_lt (by omega)
  case reaches =>
    intro port
    rw [copies, egressPorts_replicas, List.mem_map, ← mem_otherPorts]
    constructor
    · rintro ⟨other, among, rfl⟩
      rwa [UInt32.toNat_ofNat_of_lt' (narrow other among)]
    · intro among
      exact ⟨port.toNat, among, UInt32.ofNat_toNat⟩
  case ascending =>
    rw [copies, egressPorts_replicas, List.pairwise_map]
    refine (otherPorts_ascending ingress ports).imp_of_mem ?_
    intro p q pAmong qAmong less
    rwa [UInt32.lt_iff_toNat_lt, UInt32.toNat_ofNat_of_lt' (narrow p pAmong),
      UInt32.toNat_ofNat_of_lt' (narrow q qAmong)]
  case numbered =>
    have short := length_otherPorts_le ingress ports
    rw [copies, instanceIds_replicas (by omega), length_otherPorts]

namespace Controller

/-- The groups of a switch, the one for port 0 first. -/
def floods (ports : Nat) : List MulticastGroup :=
  (List.range ports).map fun ingress => floodGroup ingress ports

theorem floodGroups_eq (l : Controller) : l.floodGroups = (floods l.ports).map .multicast := by
  rw [floods, List.map_map]
  rfl

theorem floodsBut_of_getElem? {ports i : Nat} {group : MulticastGroup} (few : ports < 2 ^ 32)
    (here : (floods ports)[i]? = some group) : i < ports ∧ FloodsBut i ports group := by
  rw [floods, List.getElem?_map, Option.map_eq_some_iff] at here
  obtain ⟨ingress, known, rfl⟩ := here
  obtain ⟨inside, same⟩ := List.getElem?_eq_some_iff.mp known
  rw [List.length_range] at inside
  rw [List.getElem_range] at same
  subst same
  exact ⟨inside, floodsBut_floodGroup (by omega) few⟩

theorem groupIds_floods {ports : Nat} (few : ports < 2 ^ 32) :
    (floods ports).map (fun group => group.groupId.toNat) = (List.range ports).map (· + 1) := by
  rw [floods, List.map_map]
  refine List.map_congr_left ?_
  intro ingress among
  have below := List.mem_range.mp among
  exact (floodsBut_floodGroup (by omega) few).id

variable {σ : Type}

/-- What an election makes address learning ask for, whatever the switch refuses. -/
theorem arbitrate_requests (l : Controller) {update : Arbitration}
    (elected : update.status.code = 0) (script : Script) :
    (Control.Controller.arbitrate l update script).state.requests =
      script.requests ++ (l.batches.map Prod.snd).map script.insertion := by
  have primary := Arbitration.isPrimary_iff.mpr elected
  have state : (Control.Controller.arbitrate l update script).state =
      after Channel.insertAll (l.batches.map Prod.snd) script := by
    simp [Control.Controller.arbitrate, primary, Channel.installAll_state]
  rw [state, Script.after_insertAll_requests]

/-- An election makes address learning insert first one group for each port, and the group of a port
reaches all the others, each once. For a group alone the port need not exist, as long as its number
has a successor. -/
theorem flood_groups_reach_every_other_port {catalog : Catalog} {profile : Profile} {s : σ}
    {l : Controller} (created : (create catalog profile s).value = .ok l) (script : Script)
    {update : Arbitration} (elected : update.status.code = 0) :
    (∃ (groups : List MulticastGroup) (later : List WriteRequest),
      (Control.Controller.arbitrate l update script).state.requests = script.requests ++
        ⟨script.deviceId, ⟨0, script.electionId⟩, .continueOnError,
          groups.map fun group => ⟨.insert, .multicast group⟩⟩ :: later ∧
      groups.length = profile.ports.toNat ∧
      (∀ i group, groups[i]? = some group → FloodsBut i profile.ports.toNat group) ∧
      (groups.map MulticastGroup.groupId).Nodup ∧
      0 ∉ groups.map MulticastGroup.groupId ∧
      ∀ (i : Nat) (group : MulticastGroup) (j : UInt32), groups[i]? = some group →
        j < profile.ports →
        (j ∈ group.replicas.map Replica.egressPort ↔ i ≠ j.toNat)) ∧
    ∀ ingress ports : UInt32, ingress.toNat < 2 ^ 32 - 1 →
      FloodsBut ingress.toNat ports.toNat (floodGroup ingress.toNat ports.toNat) := by
  have few := profile.ports.toNat_lt
  have ids := groupIds_floods few
  obtain ⟨-, ports⟩ := Agent.created_learning created
  refine ⟨⟨floods profile.ports.toNat, ?_⟩, ?_⟩
  · refine ⟨[script.insertion staticEntries, script.insertion l.digestEntries], ?_, ?_, ?_, ?_, ?_,
      ?_⟩
    · rw [l.arbitrate_requests elected, batches, floodGroups_eq, ports]
      simp only [List.map_cons, List.map_nil, Script.insertion, List.map_map]
      rfl
    · rw [floods, List.length_map, List.length_range]
    · intro i group here
      exact (floodsBut_of_getElem? few here).2
    · have distinct : ((floods profile.ports.toNat).map
          (fun group => group.groupId.toNat)).Nodup := by
        rw [ids]
        exact List.nodup_range.map fun _ _ same => Nat.succ.inj same
      refine List.Nodup.of_map UInt32.toNat ?_
      rwa [List.map_map]
    · intro zero
      obtain ⟨group, among, none⟩ := List.mem_map.mp zero
      have number := List.mem_map_of_mem (f := fun group => group.groupId.toNat) among
      rw [ids, none] at number
      obtain ⟨ingress, -, next⟩ := List.mem_map.mp number
      exact absurd next (Nat.succ_ne_zero ingress)
    · intro i group j here below
      have inside := UInt32.lt_iff_toNat_lt.mp below
      rw [(floodsBut_of_getElem? few here).2.reaches j]
      constructor
      · rintro ⟨-, other⟩ rfl
        exact other rfl
      · intro other
        exact ⟨inside, fun same => other same.symm⟩
  · intro ingress ports valid
    exact floodsBut_floodGroup valid ports.toNat_lt

theorem middle_of_three_ports_left_out :
    let elected : Arbitration := ⟨1, .ofLow 10, ⟨0, ""⟩⟩
    let asked := (Control.Controller.arbitrate (⟨5, 3⟩ : Controller) elected
      Agent.refusingScript).state.requests
    (create Agent.portless.catalog { ports := 3 } ()).value = .ok ⟨5, 3⟩ ∧
    (∃ group, ⟨.insert, .multicast group⟩ ∈ asked.flatMap WriteRequest.updates ∧
      group.groupId.toNat = 2 ∧
      1 ∉ group.replicas.map Replica.egressPort ∧ 2 ∈ group.replicas.map Replica.egressPort ∧
      group.replicas.map (fun replica => replica.instanceId.toNat) = [0, 1]) ∧
    (floodGroup 0xfffffffe 3).groupId.toNat = 0xffffffff := by
  intro elected asked
  have created : (create Agent.portless.catalog { ports := 3 } ()).value = .ok ⟨5, 3⟩ := by rfl
  have isElected : elected.status.code = 0 := rfl
  obtain ⟨⟨groups, later, requests, length, floods, -, -, reaches⟩, alone⟩ :=
    flood_groups_reach_every_other_port created Agent.refusingScript isElected
  have inside : 1 < groups.length := by
    rw [length]
    decide
  have here : groups[1]? = some groups[1] := List.getElem?_eq_getElem inside
  have middle := floods 1 groups[1] here
  refine ⟨created, ⟨groups[1], ?_, middle.id, ?_, ?_, middle.numbered⟩, ?_⟩
  · have known : groups[1] ∈ groups := List.getElem_mem inside
    simp [asked, requests, known]
  · intro reached
    exact (reaches 1 groups[1] 1 here (by decide)).mp reached rfl
  · exact (reaches 1 groups[1] 2 here (by decide)).mpr (by decide)
  · exact (alone 0xfffffffe 3 (by decide)).id

end Controller

end SwitchAgent.Learning
