import Mathlib.Data.List.Forall2
import SwitchAgent.Proofs.Agent.Election
import SwitchAgent.Proofs.Bytes.Numbers
import SwitchAgent.Proofs.Faults

/-!
# What the agent asks of the switch

The only requests are those of elections and digests. They insert and do nothing else, every table
entry is laid out as the program on the switch declares it, and what is learned stands in the tables
as it stood in the digest.
-/

namespace SwitchAgent

open SwitchAgent.Action Bytes Control Device

namespace Device

/-- A table, the ids of its match fields with the bytes that each takes, and an action with the ids
and the bytes of its parameters. -/
structure Layout where
  tableId : UInt32
  fields : List (UInt32 × Nat)
  action : Option (UInt32 × List (UInt32 × Nat))
  deriving DecidableEq

namespace TableEntry

def layout (entry : TableEntry) : Layout where
  tableId := entry.tableId
  fields := entry.fields.map fun field => (field.fieldId, field.exact.length)
  action := entry.action.map fun call =>
    (call.actionId, call.params.map fun param => (param.paramId, param.value.length))

theorem layout_empty (table : UInt32) :
    (TableEntry.mk table [] none).layout = ⟨table, [], none⟩ := rfl

theorem layout_exact (entry : TableEntry) (id : UInt32) (value : List UInt8) :
    (entry.exact id value).layout =
      { entry.layout with fields := entry.layout.fields ++ [(id, value.length)] } := by
  rw [layout, exact, List.map_append]
  rfl

theorem layout_calling (entry : TableEntry) (call : ActionCall) :
    (entry.calling call).layout = { entry.layout with
      action := some (call.actionId, call.params.map fun p => (p.paramId, p.value.length)) } := rfl

end TableEntry

end Device

namespace Learning

theorem layout_learnEntry (mac : Nat) (action : UInt32) :
    (learnEntry mac action).layout = ⟨learnTable, [(1, 6)], some (action, [])⟩ := by
  simp [learnEntry, TableEntry.layout_calling, TableEntry.layout_exact, TableEntry.layout_empty,
    Bitstring.length_encode]

theorem layout_forwardEntry (mac port : Nat) :
    (forwardEntry mac port).layout =
      ⟨forwardTable, [(1, 6)], some (forwardAction, [(1, 2)])⟩ := by
  simp [forwardEntry, TableEntry.layout_calling, TableEntry.layout_exact, TableEntry.layout_empty,
    ActionCall.param, Bitstring.length_encode]

end Learning

namespace Telemetry

theorem layout_towards (destination : IsdAs) :
    (towards destination).layout = ⟨destinationTable, [(1, 2), (2, 6)], none⟩ := by
  simp [towards, TableEntry.layout_exact, TableEntry.layout_empty, Bitstring.length_encode]

theorem layout_flagged (table : UInt32) : (flagged table).layout = ⟨table, [(1, 1)], none⟩ := by
  simp [flagged, TableEntry.layout_exact, TableEntry.layout_empty, Bitstring.length_encode]

theorem layout_insertEntry (destination : IsdAs) (intBitmask scionBitmask : UInt16) :
    (insertEntry destination intBitmask scionBitmask).layout =
      ⟨destinationTable, [(1, 2), (2, 6)], some (insertAction, [(1, 2), (2, 2)])⟩ := by
  simp [insertEntry, TableEntry.layout_calling, layout_towards, ActionCall.param,
    Bitstring.length_encode]

theorem layout_cloneEntry (destination : IsdAs) :
    (cloneEntry destination).layout =
      ⟨destinationTable, [(1, 2), (2, 6)], some (cloneAction, [])⟩ := by
  simp [cloneEntry, TableEntry.layout_calling, layout_towards]

theorem layout_nodeIdEntry (nodeId : UInt32) :
    (nodeIdEntry nodeId).layout = ⟨nodeIdTable, [(1, 1)], some (nodeIdAction, [(1, 4)])⟩ := by
  simp [nodeIdEntry, TableEntry.layout_calling, layout_flagged, ActionCall.param,
    Bitstring.length_encode]

theorem layout_asAddressEntry (asn : UInt64) :
    (asAddressEntry asn).layout =
      ⟨asAddressTable, [(1, 1)], some (asAddressAction, [(1, 8)])⟩ := by
  simp [asAddressEntry, TableEntry.layout_calling, layout_flagged, ActionCall.param,
    Bitstring.length_encode]

theorem layout_linkUseEntry (port : Nat) (use : UInt32) :
    (linkUseEntry port use).layout =
      ⟨linkUseTable, [(1, 1), (2, 2)], some (linkUseAction, [(1, 4)])⟩ := by
  simp [linkUseEntry, TableEntry.layout_calling, TableEntry.layout_exact, layout_flagged,
    ActionCall.param, Bitstring.length_encode]

end Telemetry

namespace Agent

open Learning Telemetry

/-- The layouts that the program on the switch declares, those of address learning first. -/
def declared : List Layout :=
  [⟨learnTable, [(1, 6)], some (noAction, [])⟩,
    ⟨forwardTable, [(1, 6)], some (forwardAction, [(1, 2)])⟩,
    ⟨destinationTable, [(1, 2), (2, 6)], some (insertAction, [(1, 2), (2, 2)])⟩,
    ⟨destinationTable, [(1, 2), (2, 6)], some (cloneAction, [])⟩,
    ⟨nodeIdTable, [(1, 1)], some (nodeIdAction, [(1, 4)])⟩,
    ⟨asAddressTable, [(1, 1)], some (asAddressAction, [(1, 8)])⟩,
    ⟨linkUseTable, [(1, 1), (2, 2)], some (linkUseAction, [(1, 4)])⟩]

/-- Only what goes into a table has a layout. -/
def Declared : Entity → Prop
  | .table entry => entry.layout ∈ declared
  | _ => True

theorem declared_of_layout {entry : TableEntry} {layout : Layout} (laidOut : entry.layout = layout)
    (known : layout ∈ declared) : Declared (.table entry) := by
  rwa [Declared, laidOut]

theorem sighting_declared (s : Sighting) : ∀ entity ∈ s.entities, Declared entity := by
  have learn := declared_of_layout (layout_learnEntry s.mac noAction) (by decide)
  have forward := declared_of_layout (layout_forwardEntry s.mac s.port) (by decide)
  simp [Sighting.entities, learn, forward]

namespace Configuration

variable (c : Configuration)

theorem batches_declared :
    ∀ entities ∈ c.batches, ∀ entity ∈ entities, Declared entity := by
  intro entities batch entity among
  simp only [batches, List.mem_append, List.mem_cons, List.mem_map, List.not_mem_nil,
    or_false] at batch
  rcases batch with ((rfl | rfl | rfl | rfl) | ⟨rule, -, rfl⟩) | rfl | rfl
  · obtain ⟨port, -, rfl⟩ := List.mem_map.mp among
    trivial
  · rw [List.mem_singleton.mp among]
    exact declared_of_layout (layout_learnEntry _ _) (by decide)
  · rw [List.mem_singleton.mp among]
    trivial
  · rw [List.mem_singleton.mp among]
    exact declared_of_layout (layout_cloneEntry _) (by decide)
  · rw [List.mem_singleton.mp among]
    exact declared_of_layout (layout_insertEntry _ _ _) (by decide)
  · simp only [List.mem_cons, List.mem_map] at among
    rcases among with rfl | rfl | ⟨port, -, rfl⟩
    · exact declared_of_layout (layout_nodeIdEntry _) (by decide)
    · exact declared_of_layout (layout_asAddressEntry _) (by decide)
    · exact declared_of_layout (layout_linkUseEntry _ _) (by decide)
  · rw [List.mem_singleton.mp among]
    trivial

end Configuration

end Agent

namespace Learning

namespace Sighting

instance (d : Datum) : Decidable (Shaped d) :=
  decidable_of_iff ((ofDatum d).toOption.isSome) <| by
    rw [← ofDatum_ok_iff, Option.isSome_iff_exists]
    cases ofDatum d <;> simp [Except.toOption]

/-- What an entry of a digest has installed: its bytes as they stand. -/
def entriesOf : Datum → List Entity
  | .struct [.bitstring mac, .bitstring port] =>
    [.table ⟨learnTable, [⟨1, mac⟩], some ⟨noAction, []⟩⟩,
      .table ⟨forwardTable, [⟨1, mac⟩], some ⟨forwardAction, [⟨1, port⟩]⟩⟩]
  | _ => []

theorem entities_of_read {d : Datum} {sighting : Sighting} (read : ofDatum d = .ok sighting) :
    sighting.entities = entriesOf d := by
  obtain ⟨mac, port, rfl, macWidth, portWidth⟩ := (ofDatum_ok_iff d).mp ⟨sighting, read⟩
  have same : sighting = ⟨Bitstring.decode 6 mac, Bitstring.decode 2 port⟩ := by
    simpa [ofDatum, macWidth, portWidth] using read.symm
  rw [same, entities, learnEntry, forwardEntry, encode_decode macWidth, encode_decode portWidth]
  rfl

theorem flatMap_entities_of_read {data : List Datum} {sightings : List Sighting}
    (read : List.Forall₂ (fun d sighting => ofDatum d = .ok sighting) data sightings) :
    sightings.flatMap entities = data.flatMap entriesOf := by
  induction read with
  | nil => rfl
  | cons first _ ih => rw [List.flatMap_cons, List.flatMap_cons, entities_of_read first, ih]

theorem forall_shaped_of_read {data : List Datum} {sightings : List Sighting}
    (read : data.mapM ofDatum = .ok sightings) : ∀ d ∈ data, Shaped d := by
  intro d among
  refine Classical.byContradiction fun bad => ?_
  obtain ⟨fault, failed⟩ := (mapM_ofDatum data).1.mpr ⟨d, among, bad⟩
  rw [read] at failed
  cases failed

end Sighting

theorem Controller.learnedBatches_of_read {data : List Datum} {sightings : List Sighting}
    (read : data.mapM Sighting.ofDatum = .ok sightings) :
    learnedBatches sightings = if data = [] then [] else [data.flatMap Sighting.entriesOf] := by
  have each := forall₂_of_mapM read
  rw [learnedBatches, Sighting.flatMap_entities_of_read each]
  cases each <;> rfl

end Learning

namespace Control

def Call.written? : Call → Option WriteRequest
  | .write request => some request
  | _ => none

/-- All write requests, those that failed included. -/
def Script.requests (script : Script) : List WriteRequest :=
  script.calls.filterMap Call.written?

theorem requests_of_writes {α : Type} (request : α → WriteRequest) (as : List α) :
    (as.map fun a => Call.write (request a)).filterMap Call.written? = as.map request := by
  induction as with
  | nil => rfl
  | cons a as ih => exact congrArg (request a :: ·) ih

/-- How a channel asks for entities to be installed. -/
def Script.insertion (script : Script) (entities : List Entity) : WriteRequest :=
  ⟨script.deviceId, ⟨0, script.electionId⟩, .continueOnError, entities.map (⟨.insert, ·⟩)⟩

theorem Script.acknowledge_requests (digestId : UInt32) (listId : UInt64) (script : Script) :
    (Channel.acknowledge digestId listId script).state.requests = script.requests := by
  have calls : (Channel.acknowledge digestId listId script).state.calls =
      script.calls ++ [.acknowledge digestId listId] := attempt_calls _ script
  rw [requests, calls, List.filterMap_append]
  exact List.append_nil _

theorem Script.after_insertAll_requests (batches : List (List Entity)) (script : Script) :
    (after Channel.insertAll batches script).requests =
      script.requests ++ batches.map script.insertion := by
  rw [requests, after_insertAll_calls, List.filterMap_append, requests_of_writes]
  rfl

end Control

namespace Agent.Configuration

open Learning (Sighting)

variable {P : Type} [Telemetry.Publisher P] (c : Configuration)

/-- What a message makes the agent install, batch by batch. -/
def installs : Message → List (List Entity)
  | .arbitration update => if update.status.code = 0 then c.batches else []
  | .event (.digest list) =>
    if list.digestId = c.digestId ∧ list.data ≠ [] ∧ ∀ d ∈ list.data, Sighting.Shaped d then
      [list.data.flatMap Sighting.entriesOf]
    else []
  | _ => []

theorem dispatch_arbitration_requests (outlets : Outlets P) (script : Script)
    (update : Arbitration) :
    (Plane.dispatch (.arbitration update) (c.plane outlets script)).state.channel.requests =
      script.requests ++ (c.installs (.arbitration update)).map script.insertion := by
  rw [Script.requests, c.dispatch_arbitration_calls, List.filterMap_append, installs]
  by_cases elected : update.status.code = 0
  · rw [if_pos elected, if_pos elected, setup, List.filterMap_cons_none rfl, requests_of_writes]
    rfl
  · rw [if_neg elected, if_neg elected]
    rfl

theorem learn_requests {list : DigestList} (own : list.digestId = c.digestId) (script : Script) :
    (Learning.Controller.learn list script).state.requests =
      script.requests ++ (c.installs (.event (.digest list))).map script.insertion := by
  cases read : list.data.mapM Sighting.ofDatum with
  | error fault =>
    have bad := (Sighting.mapM_ofDatum list.data).1.mp ⟨fault, read⟩
    have unread : ¬ ∀ d ∈ list.data, Sighting.Shaped d := by
      obtain ⟨d, among, bad⟩ := bad
      exact fun shaped => bad (shaped d among)
    rw [(Learning.Controller.learn_refused read script).2, installs,
      if_neg fun all => unread all.2.2]
    exact (List.append_nil _).symm
  | ok sightings =>
    have installed : c.installs (.event (.digest list)) =
        Learning.Controller.learnedBatches sightings := by
      have shaped := Sighting.forall_shaped_of_read read
      rw [installs, Learning.Controller.learnedBatches_of_read read]
      by_cases empty : list.data = []
      · rw [if_pos empty, if_neg fun all => all.2.1 empty]
      · rw [if_neg empty, if_pos ⟨own, empty, shaped⟩]
    rw [installed, ← Script.after_insertAll_requests,
      (Learning.Controller.learn_read read script).2]
    exact Script.acknowledge_requests list.digestId list.listId _

theorem dispatch_requests (outlets : Outlets P) (script : Script) (message : Message) :
    (Plane.dispatch message (c.plane outlets script)).state.channel.requests =
      script.requests ++ (c.installs message).map script.insertion := by
  cases message with
  | arbitration update => exact c.dispatch_arbitration_requests outlets script update
  | event event =>
    rw [(c.dispatch_event_by_course event outlets script).2]
    by_cases own : ∃ list, event = .digest list ∧ list.digestId = c.digestId
    · obtain ⟨list, rfl, own⟩ := own
      rw [c.taking_own own]
      exact c.learn_requests own script
    · have foreign : ∀ list, event = .digest list → list.digestId ≠ c.digestId :=
        fun list same id => own ⟨list, same, id⟩
      have nothing : c.installs (.event event) = [] := by
        cases event with
        | digest list => exact if_neg fun all => foreign list rfl all.1
        | _ => rfl
      rw [c.taking_foreign foreign, nothing]
      exact (List.append_nil _).symm
  | unknown => exact (List.append_nil _).symm

theorem dispatch_alike (outlets : Outlets P) (script : Script) (message : Message) :
    Script.Alike (Plane.dispatch message (c.plane outlets script)).state.channel script := by
  have kept (operation : Operation) (s : Script) (alike : Script.Alike s script) :
      Script.Alike (operation.perform s).state script :=
    (Script.perform_alike operation s).trans alike
  exact Plane.dispatch_keeps kept Feature.respected message (Script.Alike.refl script)

theorem after_dispatch_requests (outlets : Outlets P) (script : Script) (history : List Message) :
    (after Plane.dispatch history (c.plane outlets script)).channel.requests =
      script.requests ++ (history.flatMap c.installs).map script.insertion := by
  induction history generalizing outlets script with
  | nil => exact (List.append_nil _).symm
  | cons message rest ih =>
    have first := c.dispatch_requests outlets script message
    have alike := c.dispatch_alike outlets script message
    have same : Script.insertion (Plane.dispatch message (c.plane outlets script)).state.channel =
        script.insertion := by
      funext entities
      rw [Script.insertion, Script.insertion, alike.deviceId, alike.electionId]
    change (after Plane.dispatch rest
      (Plane.dispatch message (c.plane outlets script)).state).channel.requests = _
    rw [c.dispatch_plane, ih, first, same, List.flatMap_cons, List.map_append, List.append_assoc]

theorem entriesOf_declared {d : Datum} (shaped : Sighting.Shaped d) :
    ∀ entity ∈ Sighting.entriesOf d, Declared entity := by
  obtain ⟨sighting, read⟩ := (Sighting.ofDatum_ok_iff d).mpr shaped
  rw [← Sighting.entities_of_read read]
  exact sighting_declared sighting

theorem installs_declared (message : Message) :
    ∀ entities ∈ c.installs message, ∀ entity ∈ entities, Declared entity := by
  intro entities batch
  cases message with
  | arbitration update =>
    rw [installs] at batch
    split at batch
    · exact c.batches_declared entities batch
    · cases batch
  | event event =>
    cases event with
    | digest list =>
      rw [installs] at batch
      split at batch
      · next all =>
        rw [List.mem_singleton.mp batch]
        intro entity among
        obtain ⟨d, member, among⟩ := List.mem_flatMap.mp among
        exact entriesOf_declared (all.2.2 d member) entity among
      · cases batch
    | _ => cases batch
  | unknown => cases batch

/-- Whatever messages come in and whichever calls fail, the write requests that are tried are those
of elections and of digests of addresses, for this device and this election id. They only insert,
every table entry is laid out as declared, and what a digest installs is made of its own bytes. -/
theorem requests_insert_declared_entries_only (outlets : Outlets P) (script : Script)
    (history : List Message) :
    let left := after Plane.dispatch history (c.plane outlets script)
    let batches := history.flatMap c.installs
    left.channel.requests = script.requests ++ batches.map (fun entities =>
      ⟨script.deviceId, ⟨0, script.electionId⟩, .continueOnError,
        entities.map (⟨.insert, ·⟩)⟩) ∧
    ∀ entities ∈ batches, ∀ entity ∈ entities, Declared entity := by
  intro left batches
  constructor
  · exact c.after_dispatch_requests outlets script history
  · intro entities among
    obtain ⟨message, -, batch⟩ := List.mem_flatMap.mp among
    exact c.installs_declared message entities batch

theorem address_learned_though_writes_fail :
    let outlets : Outlets Telemetry.LogPublisher := ⟨⟨"log", 0⟩, .disabled⟩
    let history := [Message.arbitration ⟨1, .ofLow 10, ⟨0, ""⟩⟩, digestOf address]
    let left := after Plane.dispatch history (portless.plane outlets refusingScript)
    let learned : List Entity :=
      [.table ⟨0x02000001, [⟨1, [0, 0, 0, 0, 0, 1]⟩], some ⟨0x01000001, []⟩⟩,
        .table ⟨0x02000002, [⟨1, [0, 0, 0, 0, 0, 1]⟩], some ⟨0x01000003, [⟨1, [0, 3]⟩]⟩⟩]
    left.channel.requests.getLast? =
      some ⟨1, ⟨0, 10⟩, .continueOnError, learned.map (⟨.insert, ·⟩)⟩ ∧
    learned ∈ history.flatMap portless.installs ∧ ∀ entity ∈ learned, Declared entity := by
  intro outlets history left learned
  obtain ⟨requests, declared⟩ :=
    portless.requests_insert_declared_entries_only outlets refusingScript history
  have batches : history.flatMap portless.installs = portless.batches ++ [learned] := by decide
  have among : learned ∈ history.flatMap portless.installs := by
    rw [batches]
    exact List.mem_append_right _ (List.mem_singleton_self learned)
  refine ⟨?_, among, declared learned among⟩
  rw [requests, batches, List.map_append, ← List.append_assoc, List.map_singleton,
    List.getLast?_concat]
  rfl

end Agent.Configuration

end SwitchAgent
