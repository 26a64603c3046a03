import SwitchAgent.Agent.Feature
import SwitchAgent.Proofs.Control.Occasions

/-!
# What the features do

An election makes a feature install its batches, one after the other, whether or not they can be
installed. A digest of addresses is learned from and acknowledged if all its entries can be read;
otherwise it violates the protocol, and the channel is not used at all.
-/

namespace SwitchAgent

open SwitchAgent.Action Control Device Pipeline

variable {C : Type} [Channel C]

/-- All batches are tried, whatever becomes of those before. -/
theorem Control.Channel.installAll_state (batches : List (String × List Entity)) (channel : C) :
    (installAll batches channel).state =
      after Channel.insertAll (batches.map Prod.snd) channel := by
  induction batches generalizing channel with
  | nil => rfl
  | cons batch rest ih =>
    obtain ⟨what, entities⟩ := batch
    cases result : (Channel.insertAll entities channel).value <;>
      simp [installAll, result, ih, after, warn]

namespace Telemetry.Controller

variable {P : Type}

/-- The log says which rules there are; nothing else comes of it. -/
theorem install_state (t : Controller P) (channel : C) :
    (t.install channel).state = after Channel.insertAll t.batches channel := by
  have told (rules : List Rule) (c : C) :
      (forIn rules PUnit.unit (fun rule _ => do
        Action.debug (ruleText rule)
        pure (ForInStep.yield PUnit.unit)) c).state = c := by
    induction rules with
    | nil => rfl
    | cons rule rest ih =>
      simp only [List.forIn_cons, bind_assoc, pure_bind]
      exact ih
  have entities : (t.batches.map (Prod.mk "INT table entries")).map Prod.snd = t.batches := by
    simp [Function.comp_def]
  simp only [install, Action.bind_apply, told, Channel.installAll_state, entities]
  rfl

end Telemetry.Controller

namespace Agent.Feature

variable {P : Type} [Telemetry.Publisher P]

/-- What an election makes a feature install, batch by batch. -/
def batches : Feature P → List (List Entity)
  | .fallback _ => []
  | .learning l => l.batches.map Prod.snd
  | .telemetry t => t.batches

/-- No fault shows, and no feature changes. -/
theorem informing_value (update : Arbitration) (feature : Feature P) (channel : C) :
    (Plane.informing update feature channel).value = (feature, .ok ()) := by
  cases feature with
  | fallback f => rfl
  | learning l =>
    cases elected : update.isPrimary <;> simp [Plane.informing, Controller.arbitrate, elected]
  | telemetry t =>
    cases elected : update.isPrimary <;> simp [Plane.informing, Controller.arbitrate, elected]

theorem informing_state (update : Arbitration) (feature : Feature P) (channel : C) :
    (Plane.informing update feature channel).state =
      after Channel.insertAll (if update.isPrimary then feature.batches else []) channel := by
  cases feature with
  | fallback f => cases update.isPrimary <;> rfl
  | learning l =>
    cases elected : update.isPrimary <;>
      simp [Plane.informing, Controller.arbitrate, elected, batches,
        Channel.installAll_state, after]
  | telemetry t =>
    cases elected : update.isPrimary <;>
      simp [Plane.informing, Controller.arbitrate, elected, batches,
        Telemetry.Controller.install_state, after]

theorem after_informing (update : Arbitration) (features : List (Feature P)) (channel : C) :
    after (Plane.informing update) features channel =
      after Channel.insertAll (if update.isPrimary then features.flatMap batches else [])
        channel := by
  induction features generalizing channel with
  | nil => cases update.isPrimary <;> rfl
  | cons feature rest ih =>
    have first : after (Plane.informing update) (feature :: rest) channel =
        after (Plane.informing update) rest
          (Plane.informing update feature channel).state := rfl
    rw [first, ih, informing_state]
    cases update.isPrimary with
    | false => rfl
    | true => exact (after_append Channel.insertAll feature.batches _ channel).symm

theorem answers_informing (update : Arbitration) (features : List (Feature P)) (channel : C) :
    answers (Plane.informing update) features channel =
      features.map fun feature => (feature, .ok ()) := by
  induction features generalizing channel with
  | nil => rfl
  | cons feature rest ih =>
    rw [answers, ih, informing_value]
    rfl

/-- An election never fails: the batches of all features are tried, one after the other. -/
theorem dispatch_election (update : Arbitration) (plane : Plane (Feature P) C) :
    (Plane.dispatch (.arbitration update) plane).value = .ok () ∧
    (Plane.dispatch (.arbitration update) plane).state = { plane with
      channel := after Channel.insertAll
        (if update.isPrimary then plane.stack.flatMap batches else [])
        (plane.afterInstall update) } := by
  have harmless : ∀ answer ∈
      answers (Plane.informing update) plane.stack (plane.afterInstall update),
      ¬ Plane.IsFatal answer.2 := by
    rw [answers_informing]
    intro answer among
    obtain ⟨feature, -, rfl⟩ := List.mem_map.mp among
    rintro ⟨fault, failed, -⟩
    cases failed
  have informed := Plane.informed_of_upTo (UpTo.whole harmless)
  obtain ⟨value, state⟩ := Plane.dispatch_arbitration update plane
  rw [value, state, informed.channel, informed.controllers, after_informing, answers_informing]
  constructor
  · cases result : (Plane.inform update plane.stack (plane.afterInstall update)).value.2 with
    | ok _ => rfl
    | error fault =>
      obtain ⟨kind, answer, among, failed⟩ := (informed.result fault).mp result
      exact absurd ⟨fault, failed, kind⟩ (harmless answer among)
  · simp [Function.comp_def]

end Agent.Feature

namespace Learning

/-- An address of six bytes and a port of two. -/
def Sighting.Shaped (d : Datum) : Prop :=
  ∃ mac port, d = .struct [.bitstring mac, .bitstring port] ∧ mac.length = 6 ∧ port.length = 2

namespace Sighting

theorem ofDatum_ok_iff (d : Datum) : (∃ sighting, ofDatum d = .ok sighting) ↔ Shaped d := by
  constructor
  · rintro ⟨sighting, read⟩
    unfold ofDatum at read
    split at read
    · next mac port =>
      split at read
      · next widths => exact ⟨mac, port, rfl, widths⟩
      · cases read
    · cases read
    · cases read
  · rintro ⟨mac, port, rfl, widths⟩
    exact ⟨_, if_pos widths⟩

theorem kind_of_ofDatum {d : Datum} {fault : Fault} (failed : ofDatum d = .error fault) :
    fault.kind = .protocol := by
  unfold ofDatum at failed
  split at failed
  · split at failed
    · cases failed
    · cases failed; rfl
  · cases failed; rfl
  · cases failed; rfl

theorem readAll_value {σ : Type} (data : List Datum) (s : σ) :
    (readAll data s).value = data.mapM ofDatum := by
  induction data with
  | nil => rfl
  | cons d ds ih =>
    rw [List.mapM_cons]
    cases first : ofDatum d with
    | error fault => simp [readAll, first]; rfl
    | ok sighting =>
      cases later : ds.mapM ofDatum <;>
        simp [readAll, first, ih, later, Action.info, Except.map] <;> rfl

theorem readAll_state {σ : Type} (data : List Datum) (s : σ) : (readAll data s).state = s := by
  induction data with
  | nil => rfl
  | cons d ds ih => cases first : ofDatum d <;> simp [readAll, first, ih, Action.info]

/-- A list is read if all its data have their shape; otherwise it violates the protocol. -/
theorem mapM_ofDatum (data : List Datum) :
    ((∃ fault, data.mapM ofDatum = .error fault) ↔ ∃ d ∈ data, ¬ Shaped d) ∧
    ∀ fault, data.mapM ofDatum = .error fault → fault.kind = .protocol := by
  induction data with
  | nil => exact ⟨⟨nofun, nofun⟩, nofun⟩
  | cons d ds ih =>
    rw [List.mapM_cons]
    cases first : ofDatum d with
    | error other =>
      have bad : ¬ Shaped d := fun shaped => by
        obtain ⟨sighting, read⟩ := (ofDatum_ok_iff d).mpr shaped
        rw [read] at first
        cases first
      refine ⟨⟨fun _ => ⟨d, List.mem_cons_self, bad⟩, fun _ => ⟨other, rfl⟩⟩, ?_⟩
      intro fault failed
      cases failed
      exact kind_of_ofDatum first
    | ok sighting =>
      have good : Shaped d := (ofDatum_ok_iff d).mp ⟨sighting, first⟩
      cases later : ds.mapM ofDatum with
      | error other =>
        obtain ⟨e, among, bad⟩ := ih.1.mp ⟨other, later⟩
        refine ⟨⟨fun _ => ⟨e, List.mem_cons_of_mem d among, bad⟩, fun _ => ⟨other, rfl⟩⟩, ?_⟩
        intro fault failed
        cases failed
        exact ih.2 other later
      | ok sightings =>
        refine ⟨⟨nofun, ?_⟩, nofun⟩
        rintro ⟨e, among, bad⟩
        rcases List.mem_cons.mp among with rfl | among
        · exact absurd good bad
        · obtain ⟨fault, failed⟩ := ih.1.mpr ⟨e, among, bad⟩
          rw [later] at failed
          cases failed

end Sighting

namespace Controller

/-- What is installed for sightings: one batch, unless there are none. -/
def learnedBatches (sightings : List Sighting) : List (List Entity) :=
  if sightings = [] then [] else [sightings.flatMap Sighting.entities]

theorem learn_refused {list : DigestList} {fault : Fault}
    (bad : list.data.mapM Sighting.ofDatum = .error fault) (channel : C) :
    (learn list channel).value = .error fault ∧ (learn list channel).state = channel := by
  simp [learn, Sighting.readAll_value, Sighting.readAll_state, bad]

/-- What was read is installed and acknowledged, whether or not it could be installed. -/
theorem learn_read {list : DigestList} {sightings : List Sighting}
    (read : list.data.mapM Sighting.ofDatum = .ok sightings) (channel : C) :
    let acknowledged := Channel.acknowledge list.digestId list.listId
      (after Channel.insertAll (learnedBatches sightings) channel)
    (learn list channel).value = acknowledged.value.map (fun _ => true) ∧
    (learn list channel).state = acknowledged.state := by
  cases sightings with
  | nil => simp [learn, Sighting.readAll_value, Sighting.readAll_state, read, learnedBatches,
      after, Action.debug]
  | cons sighting rest =>
    cases result : (Channel.insertAll ((sighting :: rest).flatMap Sighting.entities)
        channel).value <;>
      simp_all [learn, Sighting.readAll_value, Sighting.readAll_state, learnedBatches, after, warn]

theorem taken_ne_passed {α : Type} (result : Except Fault α) :
    result.map (fun _ => true) ≠ .ok false := by
  cases result <;> simp [Except.map]

/-- A digest of addresses is taken, whatever comes of it. -/
theorem learn_taken (list : DigestList) (channel : C) : (learn list channel).value ≠ .ok false := by
  cases read : list.data.mapM Sighting.ofDatum with
  | error fault => simp [(learn_refused read channel).1]
  | ok sightings =>
    rw [(learn_read read channel).1]
    exact taken_ne_passed _

/-- Where nothing fatal can come from the channel, learning is done with once all has been read. -/
theorem learn_settled {channel : C} (harmless : Channel.Harmless channel) {list : DigestList}
    (readable : ∀ d ∈ list.data, Sighting.Shaped d) :
    Plane.settled (learn list channel).value = .ok true := by
  cases read : list.data.mapM Sighting.ofDatum with
  | error fault =>
    obtain ⟨d, among, bad⟩ := (Sighting.mapM_ofDatum list.data).1.mp ⟨fault, read⟩
    exact absurd (readable d among) bad
  | ok sightings =>
    rw [(learn_read read channel).1]
    have installed := harmless.installed (learnedBatches sightings)
    cases result : (Channel.acknowledge list.digestId list.listId
        (after Channel.insertAll (learnedBatches sightings) channel)).value with
    | ok _ => rfl
    | error fault => simp [Plane.settled, installed.acknowledge result, Except.map]

end Controller

end Learning

namespace Agent.Feature

open Plane (handling)

variable {P : Type} [Telemetry.Publisher P]

theorem fallback_takes (event : Event) (f : Fallback) (channel : C) :
    (handling event (.fallback f : Feature P) channel).value = (.fallback f, .ok true) ∧
    (handling event (.fallback f : Feature P) channel).state = channel := by
  simp [handling, Controller.handle]

theorem learning_takes {l : Learning.Controller} {list : DigestList}
    (own : list.digestId = l.digestId) (channel : C) :
    let learned := Learning.Controller.learn list channel
    (handling (.digest list) (.learning l : Feature P) channel).value =
      (.learning l, learned.value) ∧
    (handling (.digest list) (.learning l : Feature P) channel).state = learned.state := by
  simp [handling, Controller.handle, own]

theorem learning_passes {l : Learning.Controller} {event : Event}
    (foreign : ∀ list, event = .digest list → list.digestId ≠ l.digestId) (channel : C) :
    (handling event (.learning l : Feature P) channel).value = (.learning l, .ok false) ∧
    (handling event (.learning l : Feature P) channel).state = channel := by
  cases event with
  | digest list => simp [handling, Controller.handle, foreign list rfl]
  | _ => simp [handling, Controller.handle]

end Agent.Feature

end SwitchAgent
