import SwitchAgent.Proofs.Agent.Requests

/-!
# Learning from a digest

A list of digests is learned from as a whole: two updates for each entry, all in one request, and an
acknowledgement, whether or not the request succeeds. One bad entry anywhere keeps the channel from
being used at all.
-/

namespace SwitchAgent.Learning

open SwitchAgent.Action Control Device

/-- The updates that a list of entries makes. -/
def updatesOf (data : List Datum) : List Update :=
  (data.flatMap Sighting.entriesOf).map (⟨.insert, ·⟩)

/-- The address makes no more digests. -/
def knownUpdate (mac : List UInt8) : Update :=
  ⟨.insert, .table ⟨learnTable, [⟨1, mac⟩], some ⟨noAction, []⟩⟩⟩

/-- Packets for the address go out by the port. -/
def forwardUpdate (mac port : List UInt8) : Update :=
  ⟨.insert, .table ⟨forwardTable, [⟨1, mac⟩], some ⟨forwardAction, [⟨1, port⟩]⟩⟩⟩

theorem updatesOf_cons (mac port : List UInt8) (data : List Datum) :
    updatesOf (.struct [.bitstring mac, .bitstring port] :: data) =
      knownUpdate mac :: forwardUpdate mac port :: updatesOf data := rfl

theorem length_updatesOf {data : List Datum} (shaped : ∀ d ∈ data, Sighting.Shaped d) :
    (updatesOf data).length = 2 * data.length := by
  induction data with
  | nil => rfl
  | cons d data ih =>
    obtain ⟨⟨mac, port, rfl, -⟩, others⟩ := List.forall_mem_cons.mp shaped
    rw [updatesOf_cons]
    simp only [List.length_cons, ih others]
    omega

/-- The updates stand in the order of the entries, and say what the entry says. -/
theorem getElem?_updatesOf {data : List Datum} (shaped : ∀ d ∈ data, Sighting.Shaped d) {i : Nat}
    {mac port : List UInt8} (entry : data[i]? = some (.struct [.bitstring mac, .bitstring port])) :
    (updatesOf data)[2 * i]? = some (knownUpdate mac) ∧
    (updatesOf data)[2 * i + 1]? = some (forwardUpdate mac port) := by
  induction data generalizing i with
  | nil => cases entry
  | cons d data ih =>
    obtain ⟨⟨first, out, rfl, -⟩, others⟩ := List.forall_mem_cons.mp shaped
    rw [updatesOf_cons]
    cases i with
    | zero =>
      cases entry
      exact ⟨rfl, rfl⟩
    | succ i => exact ih others entry

/-- What is done on a channel with these ids for a list that can be read. -/
def operationsOf (deviceId electionId : UInt64) (list : DigestList) : List Operation :=
  (if list.data = [] then []
    else [.write ⟨deviceId, ⟨0, electionId⟩, .continueOnError, updatesOf list.data⟩]) ++
  [.acknowledge list.digestId list.listId]

namespace Controller

variable {C : Type} [Channel C]

/-- A list that can be read is learned from by its operations, and the last of them decides. -/
theorem learn_of_shaped {list : DigestList} (shaped : ∀ d ∈ list.data, Sighting.Shaped d)
    (channel : C) :
    let performed := Operation.performAll
      (operationsOf (Channel.deviceId channel) (Channel.electionId channel) list) channel
    (learn list channel).state = performed.state ∧
    ∃ acknowledged, performed.value.getLast? = some (.done acknowledged) ∧
      (learn list channel).value = acknowledged.map fun _ => true := by
  cases read : list.data.mapM Sighting.ofDatum with
  | error fault =>
    obtain ⟨d, among, bad⟩ := (Sighting.mapM_ofDatum list.data).1.mp ⟨fault, read⟩
    exact absurd (shaped d among) bad
  | ok sightings =>
    obtain ⟨value, state⟩ := learn_read read channel
    rw [learnedBatches_of_read read] at value state
    by_cases empty : list.data = []
    · rw [if_pos empty] at value state
      simp only [operationsOf, if_pos empty]
      exact ⟨state, _, rfl, value⟩
    · rw [if_neg empty] at value state
      simp only [operationsOf, if_neg empty]
      exact ⟨state, _, rfl, value⟩

/-- What any list makes the controller do: nothing, if it is for others or cannot be read. -/
def attempted (l : Controller) (deviceId electionId : UInt64) (list : DigestList) :
    List Operation :=
  if list.digestId = l.digestId ∧ ∀ d ∈ list.data, Sighting.Shaped d then
    operationsOf deviceId electionId list
  else []

/-- Nothing is read from the stream. -/
theorem read_not_mem_attempted (l : Controller) (deviceId electionId : UInt64)
    (list : DigestList) : .read ∉ l.attempted deviceId electionId list := by
  rw [attempted]
  split
  · rw [operationsOf]
    split <;> simp
  · exact List.not_mem_nil

variable {l : Controller} {list : DigestList}

theorem handle_foreign (foreign : list.digestId ≠ l.digestId) (channel : C) :
    (Controller.handle l (.digest list) channel).value = (l, .ok false) ∧
    (Controller.handle l (.digest list) channel).state = channel := by
  simp [Control.Controller.handle, foreign]

theorem handle_own (own : list.digestId = l.digestId) (channel : C) :
    (Controller.handle l (.digest list) channel).value = (l, (learn list channel).value) ∧
    (Controller.handle l (.digest list) channel).state = (learn list channel).state := by
  simp [Control.Controller.handle, own]

theorem learn_of_not_shaped (bad : ∃ d ∈ list.data, ¬ Sighting.Shaped d) (channel : C) :
    (∃ fault, (learn list channel).value = .error fault ∧ fault.kind = .protocol) ∧
    (learn list channel).state = channel := by
  obtain ⟨fails, kinds⟩ := Sighting.mapM_ofDatum list.data
  obtain ⟨fault, failed⟩ := fails.mpr bad
  obtain ⟨value, state⟩ := learn_refused failed channel
  exact ⟨⟨fault, value, kinds fault failed⟩, state⟩

/-- Nothing else is done with the channel. -/
theorem handle_digest_state (l : Controller) (list : DigestList) (channel : C) :
    (Controller.handle l (.digest list) channel).state =
      (Operation.performAll
        (l.attempted (Channel.deviceId channel) (Channel.electionId channel) list) channel).state := by
  by_cases own : list.digestId = l.digestId
  · rw [(handle_own own channel).2]
    by_cases shaped : ∀ d ∈ list.data, Sighting.Shaped d
    · rw [attempted, if_pos ⟨own, shaped⟩, (learn_of_shaped shaped channel).1]
    · rw [attempted, if_neg fun both => shaped both.2]
      exact (learn_of_not_shaped (by simpa using shaped) channel).2
  · rw [(handle_foreign own channel).2, attempted, if_neg fun both => own both.1]
    rfl

/-- A digest list is learned from as a whole or not at all. If all its entries can be read, there is
one request of two updates for each entry, in their order and with their bytes, unless there are no
entries, and one acknowledgement, which alone decides the result. Otherwise the protocol is violated
and nothing is done, as for a list that is for others. A script remembers the calls, those that its
policy refuses included. -/
theorem digest_learned_whole_or_not_at_all (l : Controller) (list : DigestList) (channel : C)
    (script : Script) :
    let handled := Controller.handle l (.digest list) channel
    let operations := l.attempted (Channel.deviceId channel) (Channel.electionId channel) list
    let performed := Operation.performAll operations channel
    (handled.value.1 = l ∧ handled.state = performed.state) ∧
    (Controller.handle l (.digest list) script).state.calls = script.calls ++
      (l.attempted script.deviceId script.electionId list).map Operation.call ∧
    (list.digestId ≠ l.digestId → operations = [] ∧ handled.value.2 = .ok false) ∧
    (list.digestId = l.digestId → (∃ d ∈ list.data, ¬ Sighting.Shaped d) →
      operations = [] ∧ ∃ fault, handled.value.2 = .error fault ∧ fault.kind = .protocol) ∧
    (list.digestId = l.digestId → (∀ d ∈ list.data, Sighting.Shaped d) →
      ∃ updates acknowledged,
        operations = (if list.data = [] then []
          else [.write ⟨Channel.deviceId channel, ⟨0, Channel.electionId channel⟩,
            .continueOnError, updates⟩]) ++ [.acknowledge list.digestId list.listId] ∧
        updates.length = 2 * list.data.length ∧
        (∀ i mac port, list.data[i]? = some (.struct [.bitstring mac, .bitstring port]) →
          updates[2 * i]? = some (knownUpdate mac) ∧
          updates[2 * i + 1]? = some (forwardUpdate mac port)) ∧
        performed.value.getLast? = some (.done acknowledged) ∧
        handled.value.2 = acknowledged.map fun _ => true) := by
  intro handled operations performed
  refine ⟨⟨?_, handle_digest_state l list channel⟩, ?_, ?_, ?_, ?_⟩
  · by_cases own : list.digestId = l.digestId
    · exact congrArg Prod.fst (handle_own own channel).1
    · exact congrArg Prod.fst (handle_foreign own channel).1
  · -- A script takes down every call, whatever its policy makes of it.
    rw [handle_digest_state, Script.performAll_calls]
    rfl
  · intro foreign
    constructor
    · exact if_neg fun both => foreign both.1
    · exact congrArg Prod.snd (handle_foreign foreign channel).1
  · rintro own ⟨d, among, bad⟩
    constructor
    · exact if_neg fun both => bad (both.2 d among)
    · obtain ⟨⟨fault, failed, kind⟩, -⟩ := learn_of_not_shaped ⟨d, among, bad⟩ channel
      have value := congrArg Prod.snd (handle_own own channel).1
      exact ⟨fault, value.trans failed, kind⟩
  · intro own shaped
    have same : operations = operationsOf (Channel.deviceId channel) (Channel.electionId channel)
        list := if_pos ⟨own, shaped⟩
    obtain ⟨-, acknowledged, last, learned⟩ := learn_of_shaped shaped channel
    have value := congrArg Prod.snd (handle_own own channel).1
    refine ⟨updatesOf list.data, acknowledged, same, length_updatesOf shaped, ?_, ?_, ?_⟩
    · intro i mac port entry
      exact getElem?_updatesOf shaped entry
    · rw [← last, ← same]
    · exact value.trans learned

def otherAddress : Datum :=
  .struct [.bitstring [0, 0, 0, 0, 0, 2], .bitstring [0, 4]]

theorem both_addresses_or_none :
    let l := Agent.portless.learning
    let script := Agent.refusingScript
    let learned :=
      Controller.handle l (.digest ⟨5, 1, [Agent.address, otherAddress], 0⟩) script
    let refused := Controller.handle l (.digest ⟨5, 2, [Agent.address, .bool true], 0⟩) script
    (learned.value.2 = .ok true ∧ learned.state.calls =
      [.write ⟨1, ⟨0, 10⟩, .continueOnError,
        [knownUpdate [0, 0, 0, 0, 0, 1], forwardUpdate [0, 0, 0, 0, 0, 1] [0, 3],
          knownUpdate [0, 0, 0, 0, 0, 2], forwardUpdate [0, 0, 0, 0, 0, 2] [0, 4]]⟩,
        .acknowledge 5 1]) ∧
    (∃ fault, refused.value.2 = .error fault ∧ fault.kind = .protocol) ∧
    refused.state.calls = [] := by
  intro l script learned refused
  have shaped : ∀ d ∈ [Agent.address, otherAddress], Sighting.Shaped d := by decide
  have bad : ¬ Sighting.Shaped (.bool true) := by decide
  have among : Datum.bool true ∈ [Agent.address, .bool true] :=
    List.mem_cons_of_mem _ List.mem_cons_self
  obtain ⟨-, calls, -, -, reads⟩ := digest_learned_whole_or_not_at_all l
    ⟨5, 1, [Agent.address, otherAddress], 0⟩ script script
  obtain ⟨-, none, -, fails, -⟩ := digest_learned_whole_or_not_at_all l
    ⟨5, 2, [Agent.address, .bool true], 0⟩ script script
  obtain ⟨updates, acknowledged, same, -, -, last, value⟩ := reads rfl shaped
  obtain ⟨nothing, failed⟩ := fails rfl ⟨.bool true, among, bad⟩
  refine ⟨⟨?_, ?_⟩, failed, ?_⟩
  · rw [same] at last
    cases last
    exact value
  · rw [calls, attempted, if_pos ⟨rfl, shaped⟩]
    rfl
  · rw [none, attempted, if_neg fun both => bad (both.2 _ among)]
    rfl

end Controller

end SwitchAgent.Learning
