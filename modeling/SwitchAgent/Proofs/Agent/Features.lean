import SwitchAgent.Agent.Feature
import SwitchAgent.Proofs.Control.Correspondence

/-!
# Features on corresponding channels

Every feature of the agent does the same on channels that correspond.
-/

namespace SwitchAgent

open Control Device

variable {C D : Type} [Channel C] [Channel D] {R : Correspondence C D}

theorem Control.Fallback.respected : R.Respected Fallback where
  name _ := rfl
  arbitrate _ _ := R.pure _
  handle _ _ := R.map _ (R.log _ _)

namespace Learning

theorem Sighting.readAll_related (data : List Datum) :
    R.Rel (readAll data) (readAll data) := by
  induction data with
  | nil => exact R.pure _
  | cons d ds ih =>
    unfold readAll
    cases ofDatum d with
    | error fault => exact R.pure _
    | ok sighting =>
      apply R.bind (R.log .info _)
      intro _
      exact R.map _ ih

namespace Controller

theorem learn_related (list : DigestList) : R.Rel (learn list) (learn list) := by
  apply R.bind (Sighting.readAll_related list.data)
  intro result
  cases result with
  | error fault => exact R.pure _
  | ok sightings =>
    cases sightings with
    | nil =>
      apply R.bind (R.log .debug _)
      intro _
      exact R.map _ (R.acknowledge list.digestId list.listId)
    | cons sighting rest =>
      apply R.bind (R.insertAll _)
      intro result
      cases result with
      | ok _ => exact R.map _ (R.acknowledge list.digestId list.listId)
      | error fault =>
        apply R.bind (R.log .warn _)
        intro _
        exact R.map _ (R.acknowledge list.digestId list.listId)

theorem respected : R.Respected Controller where
  name _ := rfl
  arbitrate c update := by
    simp only [Control.Controller.arbitrate]
    split
    · exact R.map _ (R.installAll c.batches)
    · exact R.pure _
  handle c event := by
    cases event with
    | digest list =>
      simp only [Control.Controller.handle]
      split
      · exact R.map _ (learn_related list)
      · exact R.pure _
    | _ => exact R.pure _

end Controller

end Learning

namespace Telemetry.Controller

variable {P : Type}

theorem install_related (c : Controller P) : R.Rel c.install c.install := by
  apply R.bind (R.log .info _)
  intro _
  apply R.bind (R.forEach c.remoteRules fun rule => R.log .debug (ruleText rule))
  intro _
  exact R.installAll _

variable [Publisher P]

theorem report_related (c : Controller P) (packet : Packet) :
    R.Rel (c.report packet) (c.report packet) := by
  apply R.bind (R.log .debug _)
  intro _
  apply R.bind (R.aside _ c.publisher)
  rintro ⟨publisher, result⟩
  cases result with
  | ok _ => exact R.map _ (R.aside _ c.stream)
  | error fault =>
    apply R.bind (R.log .warn _)
    intro _
    exact R.map _ (R.aside _ c.stream)

theorem respected : R.Respected (Controller P) where
  name _ := rfl
  arbitrate c update := by
    simp only [Control.Controller.arbitrate]
    split
    · exact R.map _ (install_related c)
    · exact R.pure _
  handle c event := by
    cases event with
    | packet packet =>
      simp only [Control.Controller.handle]
      cases Packet.decode packet.payload with
      | error fault => exact R.map _ (R.log .warn _)
      | ok packet => exact R.map _ (report_related c packet)
    | _ => exact R.pure _

end Telemetry.Controller

namespace Agent.Feature

variable {P : Type} [Telemetry.Publisher P]

theorem respected : R.Respected (Feature P) where
  name feature := by cases feature <;> rfl
  arbitrate feature update := by
    cases feature with
    | fallback c => exact R.map _ (Fallback.respected.arbitrate c update)
    | learning c => exact R.map _ (Learning.Controller.respected.arbitrate c update)
    | telemetry c => exact R.map _ (Telemetry.Controller.respected.arbitrate c update)
  handle feature event := by
    cases feature with
    | fallback c => exact R.map _ (Fallback.respected.handle c event)
    | learning c => exact R.map _ (Learning.Controller.respected.handle c event)
    | telemetry c => exact R.map _ (Telemetry.Controller.respected.handle c event)

end Agent.Feature

end SwitchAgent
