import Mathlib.Data.List.Nodup
import SwitchAgent.Proofs.Address.Spelling
import SwitchAgent.Proofs.Agent.Requests

/-!
# What an election addresses

An object of the switch is inserted once in an election. Only rules for one AS and ports that are
the same in two bytes come to the same object again.
-/

namespace SwitchAgent

open SwitchAgent.Action Bytes Control Device

namespace Device

/-- The object that an insertion is about. -/
inductive Key where
  | table (tableId : UInt32) (fields : List (List UInt8))
  | multicast (groupId : UInt32)
  | clone (sessionId : UInt32)
  | digest (digestId : UInt32)
  deriving DecidableEq

def Entity.key : Entity → Key
  | .table entry => .table entry.tableId (entry.fields.map FieldMatch.exact)
  | .multicast group => .multicast group.groupId
  | .clone session => .clone session.sessionId
  | .digest entry => .digest entry.digestId

/-- Keys of different families differ: a table is a family of its own. -/
def Key.family : Key → Nat
  | .multicast _ => 0
  | .clone _ => 1
  | .digest _ => 2
  | .table tableId _ => tableId.toNat

/-- Where every block has a family of its own, only insertions of one block can clash. -/
theorem pairwise_of_families {R : Entity → Entity → Prop} {blocks : List (Nat × List Entity)}
    (known : ∀ block ∈ blocks, ∀ e ∈ block.2, e.key.family = block.1)
    (distinct : (blocks.map Prod.fst).Nodup)
    (inside : ∀ block ∈ blocks, block.2.Pairwise fun a b => a.key = b.key → R a b) :
    (blocks.flatMap Prod.snd).Pairwise fun a b => a.key = b.key → R a b := by
  rw [List.flatMap_def, List.pairwise_flatten]
  constructor
  · exact List.forall_mem_map.mpr inside
  · refine List.pairwise_map.mpr ((List.pairwise_map.mp distinct).imp_of_mem ?_)
    intro first second one other apart a among b amongOther same
    have families := congrArg Key.family same
    rw [known first one a among, known second other b amongOther] at families
    exact absurd families apart

end Device

namespace Telemetry

theorem Rule.asn_lt_of_parse {line : String} {rule : Rule} (parsed : Rule.parse line = .ok rule) :
    rule.remote.asn.toNat < 2 ^ 48 := by
  unfold Rule.parse at parsed
  split at parsed
  · obtain ⟨remote, address, parsed⟩ := exists_of_bind_ok parsed
    obtain ⟨int, -, parsed⟩ := exists_of_bind_ok parsed
    obtain ⟨scion, -, parsed⟩ := exists_of_bind_ok parsed
    cases parsed
    exact IsdAs.asn_lt_of_parse address
  · cases parsed

theorem RuleTable.asn_lt_of_parse {text : String} {rules : RuleTable}
    (parsed : RuleTable.parse text = .ok rules) :
    ∀ rule ∈ rules, rule.remote.asn.toNat < 2 ^ 48 := by
  have each := forall₂_of_mapM parsed
  clear parsed
  generalize ruleLines text = lines at each
  induction each with
  | nil => exact nofun
  | cons first _ ih => exact List.forall_mem_cons.mpr ⟨Rule.asn_lt_of_parse first, ih⟩

end Telemetry

namespace Agent

open Learning Telemetry

def destinationKey (a : IsdAs) : Key :=
  .table destinationTable [Bitstring.encode 2 a.isd.toNat, Bitstring.encode 6 a.asn.toNat]

theorem destinationKey_inj {a b : IsdAs} (aFits : a.asn.toNat < 2 ^ 48)
    (bFits : b.asn.toNat < 2 ^ 48) (same : destinationKey a = destinationKey b) : a = b := by
  simp only [destinationKey, Key.table.injEq, List.cons.injEq, encode_eq_encode_iff] at same
  obtain ⟨-, isd, asn, -⟩ := same
  have isdSame : a.isd = b.isd := by
    have aSmall := a.isd.toNat_lt
    have bSmall := b.isd.toNat_lt
    rw [← UInt16.toNat_inj]
    omega
  have asnSame : a.asn = b.asn := by
    rw [← UInt64.toNat_inj]
    omega
  exact congrArg₂ IsdAs.mk isdSame asnSame

@[simp] theorem key_floodGroup (ingress ports : Nat) :
    (Entity.multicast (floodGroup ingress ports)).key =
      .multicast (UInt32.ofNat (ingress + 1)) := rfl

@[simp] theorem key_learnEntry (mac : Nat) (action : UInt32) :
    (Entity.table (learnEntry mac action)).key = .table learnTable [Bitstring.encode 6 mac] := rfl

@[simp] theorem key_immediateDigest (digestId : UInt32) :
    (Entity.digest (immediateDigest digestId)).key = .digest digestId := rfl

@[simp] theorem key_cloneEntry (destination : IsdAs) :
    (Entity.table (cloneEntry destination)).key = destinationKey destination := rfl

@[simp] theorem key_insertEntry (destination : IsdAs) (intBitmask scionBitmask : UInt16) :
    (Entity.table (insertEntry destination intBitmask scionBitmask)).key =
      destinationKey destination := rfl

@[simp] theorem key_nodeIdEntry (nodeId : UInt32) :
    (Entity.table (nodeIdEntry nodeId)).key = .table nodeIdTable [Bitstring.encode 1 1] := rfl

@[simp] theorem key_asAddressEntry (asn : UInt64) :
    (Entity.table (asAddressEntry asn)).key = .table asAddressTable [Bitstring.encode 1 1] := rfl

@[simp] theorem key_linkUseEntry (port : Nat) (use : UInt32) :
    (Entity.table (linkUseEntry port use)).key =
      .table linkUseTable [Bitstring.encode 1 1, Bitstring.encode 2 port] := rfl

@[simp] theorem key_cloneSession (sessionId port : UInt32) :
    (Entity.clone (cloneSession sessionId port)).key = .clone sessionId := rfl

namespace Configuration

variable (c : Configuration)

def remoteRules : List Rule :=
  c.rules.filter fun rule => rule.remote ≠ c.host

def ruleEntity (rule : Rule) : Entity :=
  .table (insertEntry rule.remote rule.intBitmask rule.scionBitmask)

def linkEntity (port : Nat) : Entity :=
  .table (linkUseEntry port 0)

/-- What an election installs, by the family of the objects. -/
def blocks : List (Nat × List Entity) :=
  [(0, (List.range c.profile.ports.toNat).map fun port =>
      .multicast (floodGroup port c.profile.ports.toNat)),
    (learnTable.toNat, [.table (learnEntry broadcast noAction)]),
    (2, [.digest (immediateDigest c.digestId)]),
    (destinationTable.toNat, .table (cloneEntry c.host) :: c.remoteRules.map ruleEntity),
    (nodeIdTable.toNat, [.table (nodeIdEntry c.nodeId)]),
    (asAddressTable.toNat, [.table (asAddressEntry c.host.asn)]),
    (linkUseTable.toNat, (List.range c.profile.linkUseEntries.toNat).map linkEntity),
    (1, [.clone (cloneSession c.profile.cloneSession c.profile.cpuPort)])]

theorem flatten_batches : c.batches.flatten = c.blocks.flatMap Prod.snd := by
  have rules : (c.remoteRules.map fun rule => [ruleEntity rule]).flatten =
      c.remoteRules.map ruleEntity := by
    rw [← List.flatMap_def, List.map_eq_flatMap]
  change ([_, _, _, _] ++ (c.remoteRules.map fun rule => [ruleEntity rule]) ++ [_, _]).flatten = _
  rw [List.flatten_append, List.flatten_append, rules]
  simp only [blocks, List.flatMap_cons, List.flatMap_nil, List.flatten_cons, List.flatten_nil,
    List.append_nil, List.append_assoc, List.cons_append, List.nil_append]
  rfl

theorem family_of_blocks : ∀ block ∈ c.blocks, ∀ e ∈ block.2, e.key.family = block.1 := by
  simp [blocks, Key.family, destinationKey, ruleEntity, linkEntity]

theorem floods_differ {R : Entity → Entity → Prop} :
    ((List.range c.profile.ports.toNat).map fun port =>
      Entity.multicast (floodGroup port c.profile.ports.toNat)).Pairwise
        fun a b => a.key = b.key → R a b := by
  refine List.pairwise_map.mpr (List.pairwise_lt_range.imp_of_mem ?_)
  intro p q pIn qIn less same
  have small := c.profile.ports.toNat_lt
  rw [key_floodGroup, key_floodGroup] at same
  have number := congrArg UInt32.toNat (Key.multicast.inj same)
  rw [UInt32.toNat_ofNat', UInt32.toNat_ofNat'] at number
  rw [List.mem_range] at pIn qIn
  omega

theorem nodup_families : (c.blocks.map Prod.fst).Nodup := by
  change [0, learnTable.toNat, 2, destinationTable.toNat, nodeIdTable.toNat, asAddressTable.toNat,
    linkUseTable.toNat, 1].Nodup
  decide

/-- A rule is never for the host itself, so the clone entry has a key of its own. -/
theorem destinations_related {R : Entity → Entity → Prop} (host : c.host.asn.toNat < 2 ^ 48)
    (rules : ∀ rule ∈ c.rules, rule.remote.asn.toNat < 2 ^ 48)
    (related : c.remoteRules.Pairwise fun r s =>
      r.remote = s.remote → R (ruleEntity r) (ruleEntity s)) :
    (.table (cloneEntry c.host) :: c.remoteRules.map ruleEntity).Pairwise
      fun a b => a.key = b.key → R a b := by
  rw [List.pairwise_cons, List.forall_mem_map, List.pairwise_map]
  constructor
  · intro rule among same
    obtain ⟨known, foreign⟩ := List.mem_filter.mp among
    have own := destinationKey_inj host (rules rule known) same
    simp [own] at foreign
  · refine related.imp_of_mem ?_
    intro r s rIn sIn related same
    have rFits := rules r (List.mem_of_mem_filter rIn)
    have sFits := rules s (List.mem_of_mem_filter sIn)
    exact related (destinationKey_inj rFits sFits same)

theorem links_related {R : Entity → Entity → Prop} {count : Nat}
    (related : (List.range count).Pairwise fun p q =>
      p % 2 ^ 16 = q % 2 ^ 16 → R (linkEntity p) (linkEntity q)) :
    ((List.range count).map linkEntity).Pairwise fun a b => a.key = b.key → R a b := by
  refine List.pairwise_map.mpr (related.imp ?_)
  intro p q related same
  have ports : Bitstring.encode 2 p = Bitstring.encode 2 q := by
    simpa [linkEntity] using same
  exact related (encode_eq_encode_iff.mp ports)

/-- Two insertions that come to the same object are related, if those of rules and those of ports
are. -/
theorem pairwise_key {R : Entity → Entity → Prop} (host : c.host.asn.toNat < 2 ^ 48)
    (rules : ∀ rule ∈ c.rules, rule.remote.asn.toNat < 2 ^ 48)
    (rulesRelated : c.remoteRules.Pairwise fun r s =>
      r.remote = s.remote → R (ruleEntity r) (ruleEntity s))
    (linksRelated : (List.range c.profile.linkUseEntries.toNat).Pairwise fun p q =>
      p % 2 ^ 16 = q % 2 ^ 16 → R (linkEntity p) (linkEntity q)) :
    c.batches.flatten.Pairwise fun a b => a.key = b.key → R a b := by
  rw [flatten_batches]
  refine pairwise_of_families c.family_of_blocks c.nodup_families ?_
  simp only [blocks, List.forall_mem_cons]
  exact ⟨c.floods_differ, List.pairwise_singleton _ _, List.pairwise_singleton _ _,
    c.destinations_related host rules rulesRelated, List.pairwise_singleton _ _,
    List.pairwise_singleton _ _, links_related linksRelated, List.pairwise_singleton _ _, nofun⟩

/-- Two insertions for one object: those of two rules for one AS, or those of two ports that are the
same in two bytes. -/
inductive Clash : Entity → Entity → Prop where
  | rules {r s : Rule} (both : [r, s].Sublist c.remoteRules) (same : r.remote = s.remote) :
      Clash (ruleEntity r) (ruleEntity s)
  | links {p q : Nat} (less : p < q) (within : q < c.profile.linkUseEntries.toNat)
      (same : p % 2 ^ 16 = q % 2 ^ 16) : Clash (linkEntity p) (linkEntity q)

theorem pairwise_clash (host : c.host.asn.toNat < 2 ^ 48)
    (rules : ∀ rule ∈ c.rules, rule.remote.asn.toNat < 2 ^ 48) :
    c.batches.flatten.Pairwise fun a b => a.key = b.key → c.Clash a b := by
  refine c.pairwise_key host rules ?_ ?_
  · exact List.pairwise_iff_forall_sublist.mpr Clash.rules
  · refine List.pairwise_lt_range.imp_of_mem ?_
    intro p q _ among less
    exact Clash.links less (List.mem_range.mp among)

theorem nodup_keys (host : c.host.asn.toNat < 2 ^ 48)
    (rules : ∀ rule ∈ c.rules, rule.remote.asn.toNat < 2 ^ 48)
    (distinct : (c.remoteRules.map Rule.remote).Nodup)
    (few : c.profile.linkUseEntries.toNat ≤ 2 ^ 16) : (c.batches.flatten.map Entity.key).Nodup := by
  refine List.pairwise_map.mpr (c.pairwise_key host rules (R := fun _ _ => False) ?_ ?_)
  · exact List.pairwise_map.mp distinct
  · refine List.pairwise_lt_range.imp_of_mem ?_
    intro p q _ among less same
    rw [List.mem_range] at among
    omega

theorem sublist_batches {block : Nat × List Entity} (among : block ∈ c.blocks) :
    block.2.Sublist c.batches.flatten := by
  rw [flatten_batches, List.flatMap_def]
  exact List.sublist_flatten_of_mem (List.mem_map_of_mem among)

theorem rules_differ_of_nodup_keys (nodup : (c.batches.flatten.map Entity.key).Nodup) :
    (c.remoteRules.map Rule.remote).Nodup := by
  have among : (destinationTable.toNat,
      .table (cloneEntry c.host) :: c.remoteRules.map ruleEntity) ∈ c.blocks := by simp [blocks]
  have block := (List.sublist_cons_self _ _).trans (c.sublist_batches among)
  have keys := nodup.sublist (block.map Entity.key)
  rw [List.map_map] at keys
  have same : Entity.key ∘ ruleEntity = destinationKey ∘ Rule.remote := rfl
  rw [same, ← List.map_map] at keys
  exact List.Nodup.of_map destinationKey keys

theorem few_links_of_nodup_keys (nodup : (c.batches.flatten.map Entity.key).Nodup) :
    c.profile.linkUseEntries.toNat ≤ 2 ^ 16 := by
  refine Nat.not_lt.mp fun many => ?_
  have among : (linkUseTable.toNat,
      (List.range c.profile.linkUseEntries.toNat).map linkEntity) ∈ c.blocks := by simp [blocks]
  have keys := nodup.sublist ((c.sublist_batches among).map Entity.key)
  rw [List.map_map] at keys
  have first : 0 ∈ List.range c.profile.linkUseEntries.toNat := List.mem_range.mpr (by omega)
  have again : 2 ^ 16 ∈ List.range c.profile.linkUseEntries.toNat := List.mem_range.mpr many
  have same : (Entity.key ∘ linkEntity) 0 = (Entity.key ∘ linkEntity) (2 ^ 16) := by decide
  exact absurd (List.inj_on_of_nodup_map keys first again same) (by decide)

theorem updates_of_insertions (batches : List (List Entity)) (script : Script) :
    (batches.map script.insertion).flatMap WriteRequest.updates =
      batches.flatten.map (⟨.insert, ·⟩) := by
  rw [List.flatMap_map, List.map_flatten, List.flatMap_def]
  rfl

variable {P : Type} [Publisher P]

/-- Whatever the switch refuses, an election tries to insert an object again only for a rule of an AS
that another rule is for, or for a port that is another one in two bytes. Where no two rules are for
one remote AS and the ports fit in two bytes, every object is inserted once. -/
theorem objects_inserted_once_but_for_repeated_rules_and_ports (outlets : Outlets P)
    (script : Script) (update : Arbitration) (elected : update.status.code = 0)
    {hostText rulesText : String} (host : IsdAs.parse hostText = .ok c.host)
    (rules : RuleTable.parse rulesText = .ok c.rules) :
    ∃ sent : List WriteRequest,
      (Plane.dispatch (.arbitration update) (c.plane outlets script)).state.channel.requests =
        script.requests ++ sent ∧
      let updates := sent.flatMap WriteRequest.updates
      (∀ u ∈ updates, u.type = .insert) ∧
      updates.Pairwise (fun u v => u.entity.key = v.entity.key → c.Clash u.entity v.entity) ∧
      ((c.remoteRules.map Rule.remote).Nodup → c.profile.linkUseEntries.toNat ≤ 2 ^ 16 →
        (updates.map fun u => u.entity.key).Nodup) := by
  have hostFits := IsdAs.asn_lt_of_parse host
  have rulesFit := RuleTable.asn_lt_of_parse rules
  refine ⟨c.batches.map script.insertion, ?_, ?_⟩
  · rw [c.dispatch_arbitration_requests, installs, if_pos elected]
  · rw [updates_of_insertions]
    refine ⟨?_, ?_, ?_⟩
    · exact List.forall_mem_map.mpr fun _ _ => rfl
    · exact List.pairwise_map.mpr (c.pairwise_clash hostFits rulesFit)
    · intro distinct few
      rw [List.map_map]
      exact c.nodup_keys hostFits rulesFit distinct few

/-- Rules for the host itself may be repeated, and 2 ^ 16 ports are not too many. -/
def repeatedOwnRule : Configuration :=
  { portless with
    profile := { ports := 2, linkUseEntries := 0x10000 }
    host := ⟨2, 2⟩
    rules := [⟨⟨2, 2⟩, 0, 0⟩, ⟨⟨1, 1⟩, 0, 0⟩, ⟨⟨2, 2⟩, 0x8d00, 1⟩] }

theorem repeated_own_rule_inserts_once :
    IsdAs.parse "2-2" = .ok repeatedOwnRule.host ∧
    RuleTable.parse "2-2 0 0\n1-1 0 0\n2-2 8d00 1" = .ok repeatedOwnRule.rules ∧
    let outlets : Outlets LogPublisher := ⟨⟨"log", 0⟩, .disabled⟩
    let elected : Message := .arbitration ⟨1, .ofLow 10, ⟨0, ""⟩⟩
    let left := (Plane.dispatch elected (repeatedOwnRule.plane outlets refusingScript)).state
    ((left.channel.requests.flatMap WriteRequest.updates).map fun u => u.entity.key).Nodup := by
  have host : IsdAs.parse "2-2" = .ok repeatedOwnRule.host := by decide
  have rules : RuleTable.parse "2-2 0 0\n1-1 0 0\n2-2 8d00 1" = .ok repeatedOwnRule.rules := by
    decide
  refine ⟨host, rules, ?_⟩
  intro outlets elected left
  obtain ⟨sent, requests, -, -, nodup⟩ :=
    repeatedOwnRule.objects_inserted_once_but_for_repeated_rules_and_ports outlets refusingScript
      ⟨1, .ofLow 10, ⟨0, ""⟩⟩ rfl host rules
  have none : refusingScript.requests = [] := rfl
  rw [requests, none, List.nil_append]
  exact nodup (by decide) (by decide)

/-- Two rules for AS 1-1. -/
def repeatedRule : Configuration :=
  { portless with
    host := ⟨2, 2⟩
    rules := [⟨⟨1, 1⟩, 0, 0⟩, ⟨⟨1, 1⟩, 1, 1⟩] }

/-- In two bytes port 2 ^ 16 is port 0. -/
def farPort : Configuration :=
  { portless with profile := { ports := 0, linkUseEntries := 0x10001 } }

theorem object_inserted_twice_for_repeated_rule_and_far_port :
    let outlets : Outlets LogPublisher := ⟨⟨"log", 0⟩, .disabled⟩
    let elected : Message := .arbitration ⟨1, .ofLow 10, ⟨0, ""⟩⟩
    let script : Script := { deviceId := 1, electionId := 10 }
    let keys (c : Configuration) :=
      ((Plane.dispatch elected (c.plane outlets script)).state.channel.requests.flatMap
        WriteRequest.updates).map fun u => u.entity.key
    (IsdAs.parse "2-2" = .ok repeatedRule.host ∧
      RuleTable.parse "1-1 0 0\n1-1 1 1" = .ok repeatedRule.rules ∧
      ¬ (keys repeatedRule).Nodup) ∧
    (IsdAs.parse "1-1" = .ok farPort.host ∧ RuleTable.parse "" = .ok farPort.rules ∧
      ¬ (keys farPort).Nodup) := by
  intro outlets elected script keys
  have installed (c : Configuration) : keys c = c.batches.flatten.map Entity.key := by
    have none : script.requests = [] := rfl
    have requests := c.dispatch_arbitration_requests outlets script ⟨1, .ofLow 10, ⟨0, ""⟩⟩
    rw [none, List.nil_append, installs, if_pos rfl] at requests
    simp only [keys, elected]
    rw [requests, updates_of_insertions, List.map_map]
    rfl
  refine ⟨⟨by decide, by decide, ?_⟩, ⟨by decide, by decide, ?_⟩⟩
  · intro nodup
    rw [installed] at nodup
    exact absurd (repeatedRule.rules_differ_of_nodup_keys nodup) (by decide)
  · intro nodup
    rw [installed] at nodup
    exact absurd (farPort.few_links_of_nodup_keys nodup) (by decide)

end Configuration

end Agent

end SwitchAgent
