import SwitchAgent.Proofs.Address.Packing
import SwitchAgent.Proofs.Agent.Keys
import SwitchAgent.Proofs.Bytes.Codec
import SwitchAgent.Proofs.Telemetry.RuleLines

/-!
# Setting up telemetry

An election makes packets for every other AS of the table get a header, in the order of the table,
and those for the host are cloned. Whether a rule is for the host does not depend on how either is
spelled. The node, its ports and the clone session come last.
-/

namespace SwitchAgent.Telemetry

open SwitchAgent.Action Bytes Control Device Pipeline

/-- The two fields together are the packed address. -/
structure Selects (destination : IsdAs) (entry : TableEntry) : Prop where
  table : entry.tableId = destinationTable
  fields : ∃ isd asn, entry.fields = [⟨1, isd⟩, ⟨2, asn⟩] ∧ isd.length = 2 ∧ asn.length = 6 ∧
    isd ++ asn = Bitstring.encode 8 destination.pack.toNat

theorem selects_towards {destination : IsdAs} (fits : destination.asn.toNat < 2 ^ 48) :
    Selects destination (towards destination) := by
  have high : destination.pack.toNat / 256 ^ 6 = destination.isd.toNat := by
    rw [IsdAs.toNat_pack fits]
    omega
  have low : Bitstring.encode 6 destination.pack.toNat =
      Bitstring.encode 6 destination.asn.toNat := by
    rw [encode_eq_encode_iff, IsdAs.toNat_pack fits]
    omega
  constructor
  case table => rfl
  case fields =>
    refine ⟨_, _, rfl, Bitstring.length_encode 2 _, Bitstring.length_encode 6 _, ?_⟩
    rw [← high, ← low]
    exact (Bitstring.encode_add 2 6 _).symm

theorem Selects.calling {destination : IsdAs} {entry : TableEntry}
    (selects : Selects destination entry) (call : ActionCall) : Selects destination (entry.calling call) :=
  ⟨selects.table, selects.fields⟩

/-- An entry is for one address only. -/
theorem Selects.unique {a b : IsdAs} {entry : TableEntry} (aFits : a.asn.toNat < 2 ^ 48)
    (bFits : b.asn.toNat < 2 ^ 48) (one : Selects a entry) (other : Selects b entry) : a = b := by
  obtain ⟨isd, asn, fields, -, -, bytes⟩ := one.fields
  obtain ⟨isd', asn', fields', -, -, bytes'⟩ := other.fields
  rw [fields] at fields'
  cases fields'
  rw [bytes, encode_eq_encode_iff] at bytes'
  have aSmall := a.pack.toNat_lt
  have bSmall := b.pack.toNat_lt
  refine IsdAs.pack_inj aFits bFits (UInt64.toNat_inj.mp ?_)
  omega

def ClonesFor (host : IsdAs) (batch : List Entity) : Prop :=
  ∃ entry, batch = [.table entry] ∧ Selects host entry ∧ entry.action = some ⟨cloneAction, []⟩

def InsertsFor (rule : Rule) (batch : List Entity) : Prop :=
  ∃ entry, batch = [.table entry] ∧ Selects rule.remote entry ∧
    entry.action = some ⟨insertAction, [⟨1, Bitstring.encode 2 rule.intBitmask.toNat⟩,
      ⟨2, Bitstring.encode 2 rule.scionBitmask.toNat⟩]⟩

/-- Whom the node belongs to, and that none of its links is in use. -/
structure NamesNode (nodeId : UInt32) (host : IsdAs) (ports : Nat) (batch : List Entity) :
    Prop where
  length : batch.length = 2 + ports
  node : batch[0]? = some (.table ⟨nodeIdTable, [⟨1, [1]⟩],
    some ⟨nodeIdAction, [⟨1, Bitstring.encode 4 nodeId.toNat⟩]⟩⟩)
  host : batch[1]? = some (.table ⟨asAddressTable, [⟨1, [1]⟩],
    some ⟨asAddressAction, [⟨1, Bitstring.encode 8 host.asn.toNat⟩]⟩⟩)
  links : ∀ p < ports, batch[2 + p]? = some (.table ⟨linkUseTable,
    [⟨1, [1]⟩, ⟨2, Bitstring.encode 2 (p % 2 ^ 16)⟩], some ⟨linkUseAction, [⟨1, [0, 0, 0, 0]⟩]⟩⟩)

namespace Controller

variable {P : Type} (t : Controller P)

theorem clonesFor_sinkBatch (fits : t.host.asn.toNat < 2 ^ 48) : ClonesFor t.host t.sinkBatch :=
  ⟨cloneEntry t.host, rfl, (selects_towards fits).calling _, rfl⟩

theorem insertsFor_ruleBatch {rule : Rule} (fits : rule.remote.asn.toNat < 2 ^ 48) :
    InsertsFor rule (ruleBatch rule) :=
  ⟨_, rfl, (selects_towards fits).calling _, rfl⟩

theorem namesNode_nodeBatch :
    NamesNode t.nodeId t.host t.profile.linkUseEntries.toNat t.nodeBatch := by
  constructor
  case length =>
    rw [nodeBatch, List.length_cons, List.length_cons, List.length_map, List.length_range]
    omega
  case node => rfl
  case host => rfl
  case links =>
    intro p within
    have port : Bitstring.encode 2 (p % 2 ^ 16) = Bitstring.encode 2 p :=
      encode_eq_encode_iff.mpr (Nat.mod_mod p _)
    have here : t.nodeBatch[2 + p]? = some (.table (linkUseEntry p 0)) := by
      rw [Nat.add_comm, nodeBatch]
      simp [within]
    rw [here, port]
    rfl

/-- A header is added for the rules for other ASes only. -/
theorem exists_rule_of_insertion {batch : List Entity} (among : batch ∈ t.batches)
    {entry : TableEntry} (inside : .table entry ∈ batch) {params : List ActionParam}
    (inserts : entry.action = some ⟨insertAction, params⟩) :
    ∃ rule ∈ t.rules, rule.remote ≠ t.host ∧ batch = ruleBatch rule := by
  simp only [batches, List.mem_cons, List.mem_append, List.mem_map, List.not_mem_nil,
    or_false] at among
  rcases among with rfl | ⟨rule, known, rfl⟩ | rfl | rfl
  · cases List.mem_singleton.mp inside
    cases inserts
  · obtain ⟨listed, foreign⟩ := List.mem_filter.mp known
    exact ⟨rule, listed, of_decide_eq_true foreign, rfl⟩
  · simp only [nodeBatch, List.mem_cons, List.mem_map, Entity.table.injEq] at inside
    rcases inside with rfl | rfl | ⟨port, -, rfl⟩
    · cases inserts
    · cases inserts
    · cases inserts
  · cases List.mem_singleton.mp inside

/-- No header is added on the way to the host. -/
theorem not_selects_host (host : t.host.asn.toNat < 2 ^ 48)
    (rules : ∀ rule ∈ t.rules, rule.remote.asn.toNat < 2 ^ 48) :
    ∀ batch ∈ t.batches, ∀ entry params, .table entry ∈ batch →
      entry.action = some ⟨insertAction, params⟩ → ¬ Selects t.host entry := by
  intro batch among entry params inside inserts own
  obtain ⟨rule, listed, foreign, rfl⟩ := t.exists_rule_of_insertion among inside inserts
  have fits := rules rule listed
  obtain ⟨remote, single, selects, -⟩ := insertsFor_ruleBatch fits
  rw [single] at inside
  cases List.mem_singleton.mp inside
  exact foreign (selects.unique fits host own)

theorem insertsFor_remoteRules (rules : ∀ rule ∈ t.rules, rule.remote.asn.toNat < 2 ^ 48) :
    List.Forall₂ InsertsFor t.remoteRules (t.remoteRules.map ruleBatch) := by
  rw [List.forall₂_map_right_iff, List.forall₂_same]
  intro rule among
  exact insertsFor_ruleBatch (rules rule (List.mem_of_mem_filter among))

variable {σ : Type} [Publisher P]

/-- Whatever the switch refuses, all batches are asked for and nothing shows of it. -/
theorem arbitrate_requests (t : Controller P) {update : Arbitration}
    (elected : update.status.code = 0) (script : Script) :
    (Control.Controller.arbitrate t update script).value = (t, .ok ()) ∧
    (Control.Controller.arbitrate t update script).state.requests =
      script.requests ++ t.batches.map script.insertion := by
  have primary := Arbitration.isPrimary_iff.mpr elected
  have state : (Control.Controller.arbitrate t update script).state =
      after Channel.insertAll t.batches script := by
    simp [Control.Controller.arbitrate, primary, install_state]
  constructor
  · simp [Control.Controller.arbitrate, primary]
  · rw [state, Script.after_insertAll_requests]

/-- Telemetry asks first for packets to the host to be cloned, then for a header on packets to every
other AS, rule by rule, however the rules and the host are spelled; the node with its ports and the
clone session come last. No header is asked for on packets to the host. -/
theorem setup_covers_remote_ases_and_never_host {catalog : Catalog} {hostText rulesText : String}
    {nodeId : UInt32} {rules : RuleTable} {profile : Profile} {publisher : P}
    {stream : FrameStream} {s : σ} {t : Controller P}
    (read : RuleTable.parse rulesText = .ok rules)
    (created : (create catalog hostText nodeId rules profile publisher stream s).value = .ok t)
    {update : Arbitration} (elected : update.status.code = 0) (script : Script) :
    ∃ (host : IsdAs) (clone : List Entity) (inserts : List (List Entity)) (node : List Entity),
      let session := [Entity.clone ⟨profile.cloneSession, [⟨profile.cpuPort, 1⟩], 0, 0⟩]
      let batches := clone :: (inserts ++ [node, session])
      (∀ a : IsdAs, a.SpelledBy hostText ↔ a = host) ∧
      List.Forall₂ (fun line rule => ∀ other : Rule, other.WrittenOn line ↔ other = rule)
        (RuleTable.ruleLines rulesText) rules ∧
      (Control.Controller.arbitrate t update script).value = (t, .ok ()) ∧
      (Control.Controller.arbitrate t update script).state.requests =
        script.requests ++ batches.map script.insertion ∧
      ClonesFor host clone ∧
      List.Forall₂ InsertsFor (rules.filter fun rule => rule.remote ≠ host) inserts ∧
      NamesNode nodeId host profile.linkUseEntries.toNat node ∧
      ∀ batch ∈ batches, ∀ entry params, .table entry ∈ batch →
        entry.action = some ⟨insertAction, params⟩ → ¬ Selects host entry := by
  obtain ⟨counterId, host, -, parsed, rfl⟩ := Agent.created_telemetry created
  have hostFits := IsdAs.asn_lt_of_parse parsed
  have rulesFit := RuleTable.asn_lt_of_parse read
  let t : Controller P := ⟨counterId, host, nodeId, rules, profile, publisher, stream⟩
  obtain ⟨value, requests⟩ := t.arbitrate_requests elected script
  refine ⟨host, t.sinkBatch, t.remoteRules.map ruleBatch, t.nodeBatch, ?_, ?_, value, requests,
    t.clonesFor_sinkBatch hostFits, t.insertsFor_remoteRules rulesFit, t.namesNode_nodeBatch,
    t.not_selects_host hostFits rulesFit⟩
  · intro a
    rw [← IsdAs.parse_eq_ok_iff, parsed, Except.ok.injEq, eq_comm]
  · refine (forall₂_of_mapM read).imp ?_
    intro line rule here other
    rw [← Rule.parse_eq_ok_iff, here, Except.ok.injEq, eq_comm]

/-- In the table the host has a plus sign, a zero in front and two groups more. -/
theorem host_spelled_otherwise_gets_no_header :
    let rulesText := "# for 2-2 and another\n+02-0:0:2 1 2\n1-FF00:0:110 0x8d00 1\n"
    let host : IsdAs := ⟨2, 2⟩
    let other : Rule := ⟨⟨1, 0xff0000000110⟩, 0x8d00, 1⟩
    let rules : RuleTable := [⟨host, 1, 2⟩, other]
    let profile : Profile := { linkUseEntries := 0x10001 }
    let t : Controller LogPublisher := ⟨7, host, 3, rules, profile, ⟨"log", 0⟩, .disabled⟩
    let elected : Arbitration := ⟨1, .ofLow 10, ⟨0, ""⟩⟩
    let script := Agent.refusingScript
    RuleTable.parse rulesText = .ok rules ∧
    (create Agent.portless.catalog "2-2" 3 rules profile ⟨"log", 0⟩ .disabled ()).value = .ok t ∧
    ∃ clone insert node,
      (Control.Controller.arbitrate t elected script).state.requests =
        [clone, insert, node, [.clone ⟨1, [⟨128, 1⟩], 0, 0⟩]].map script.insertion ∧
      ClonesFor host clone ∧ InsertsFor other insert ∧
      node[2 + 0x10000]? = some (.table ⟨linkUseTable, [⟨1, [1]⟩, ⟨2, [0, 0]⟩],
        some ⟨linkUseAction, [⟨1, [0, 0, 0, 0]⟩]⟩⟩) := by
  intro rulesText host other rules profile t elected script
  have read : RuleTable.parse rulesText = .ok rules := by decide
  have created : (create Agent.portless.catalog "2-2" 3 rules profile ⟨"log", 0⟩ .disabled
    ()).value = .ok t := by rfl
  have named : IsdAs.SpelledBy "2-2" host := IsdAs.parse_eq_ok_iff.mp (by decide)
  have isElected : elected.status.code = 0 := rfl
  obtain ⟨own, clone, inserts, node, spelled, -, -, requests, clones, covered, names, -⟩ :=
    setup_covers_remote_ases_and_never_host read created isElected script
  obtain rfl : host = own := (spelled host).mp named
  have remote : rules.filter (fun rule => rule.remote ≠ host) = [other] := by decide
  rw [remote] at covered
  obtain ⟨insert, _, inserted, none, rfl⟩ := List.forall₂_cons_left_iff.mp covered
  cases none
  exact ⟨read, created, clone, insert, node, requests, clones, inserted,
    names.links 0x10000 (by decide)⟩

end Controller

end SwitchAgent.Telemetry
