import SwitchAgent.Proofs.Control.Course

/-!
# Corresponding channels

Controllers do not know what kind of channel they use. So a relation between what is done on two
channels that is kept by everything a controller may do holds of whatever controllers do, and of
what a stack of them does with a message.
-/

namespace SwitchAgent.Control

open Device Pipeline

/-- A relation between actions on two channels. A reading of the stream is not among what it has
to be kept by: controllers never read. -/
structure Correspondence (C D : Type) [Channel C] [Channel D] where
  Rel : {α : Type} → Action C α → Action D α → Prop
  pure {α : Type} (a : α) : Rel (Pure.pure a) (Pure.pure a)
  bind {α β : Type} {one : Action C α} {other : Action D α} {next : α → Action C β}
    {following : α → Action D β} : Rel one other → (∀ a, Rel (next a) (following a)) →
    Rel (one >>= next) (other >>= following)
  aside {τ α : Type} (action : Action τ α) (t : τ) : Rel (action.aside t) (action.aside t)
  log (level : Log.Level) (text : String) : Rel (Action.log level text) (Action.log level text)
  configure (catalog : Catalog) (program : List UInt8) :
    Rel (Channel.configure catalog program) (Channel.configure catalog program)
  insertAll (entities : List Entity) :
    Rel (Channel.insertAll entities) (Channel.insertAll entities)
  acknowledge (digestId : UInt32) (listId : UInt64) :
    Rel (Channel.acknowledge digestId listId) (Channel.acknowledge digestId listId)

namespace Correspondence

variable {C D : Type} [Channel C] [Channel D] (R : Correspondence C D)

/-- What comes last may only choose the value. -/
theorem map {α β : Type} {one : Action C α} {other : Action D α} (f : α → β)
    (h : R.Rel one other) :
    R.Rel (one >>= fun a => Pure.pure (f a)) (other >>= fun a => Pure.pure (f a)) :=
  R.bind h fun a => R.pure (f a)

/-- A loop does the same if its rounds do. -/
theorem forEach {α : Type} {one : α → Action C Unit} {other : α → Action D Unit} (as : List α)
    (h : ∀ a, R.Rel (one a) (other a)) :
    R.Rel
      (forIn as PUnit.unit fun a _ => do
        one a
        Pure.pure (ForInStep.yield PUnit.unit))
      (forIn as PUnit.unit fun a _ => do
        other a
        Pure.pure (ForInStep.yield PUnit.unit)) := by
  induction as with
  | nil => exact R.pure _
  | cons a as ih =>
    simp only [List.forIn_cons, bind_assoc, pure_bind]
    exact R.bind (h a) fun _ => ih

theorem installAll (batches : List (String × List Entity)) :
    R.Rel (Channel.installAll batches) (Channel.installAll batches) := by
  induction batches with
  | nil => exact R.pure _
  | cons batch rest ih =>
    obtain ⟨what, entities⟩ := batch
    apply R.bind (R.insertAll entities)
    intro result
    cases result with
    | ok _ => exact ih
    | error fault => exact R.bind (R.log .warn _) fun _ => ih

end Correspondence

/-- Controllers of a type do the same on both channels. -/
structure Correspondence.Respected {C D : Type} [Channel C] [Channel D] (R : Correspondence C D)
    (σ : Type) [Controller σ C] [Controller σ D] : Prop where
  name (c : σ) : Controller.name C c = Controller.name D c
  arbitrate (c : σ) (update : Arbitration) :
    R.Rel (Controller.arbitrate c update) (Controller.arbitrate c update)
  handle (c : σ) (event : Event) : R.Rel (Controller.handle c event) (Controller.handle c event)

namespace Plane

variable {C D σ : Type} [Channel C] [Channel D] [Controller σ C] [Controller σ D]
variable {R : Correspondence C D}

theorem settle_related (name : String) (result : Except Fault Bool) :
    R.Rel (settle name result) (settle name result) := by
  cases result with
  | ok taken => exact R.pure _
  | error fault =>
    unfold settle
    dsimp only
    split
    · exact R.bind (R.log .error _) fun _ => R.pure _
    · exact R.bind (R.log .warn _) fun _ => R.pure _

theorem offerTo_related (same : R.Respected σ) (event : Event) (controller : σ) :
    R.Rel (offerTo event controller) (offerTo event controller) := by
  apply R.bind (same.handle controller event)
  rintro ⟨controller, result⟩
  dsimp only
  rw [same.name]
  exact R.map _ (settle_related _ result)

theorem offer_related (same : R.Respected σ) (event : Event) (stack : List σ) :
    R.Rel (offer event stack) (offer event stack) := by
  induction stack with
  | nil => exact R.pure _
  | cons controller above ih =>
    apply R.bind ih
    rintro ⟨above, result⟩
    rcases result with fault | taken
    · exact R.pure _
    · cases taken with
      | true => exact R.pure _
      | false => exact R.map _ (offerTo_related same event controller)

theorem informOne_related (same : R.Respected σ) (update : Arbitration) (controller : σ) :
    R.Rel (informOne update controller) (informOne update controller) := by
  apply R.bind (same.arbitrate controller update)
  rintro ⟨controller, result⟩
  dsimp only
  rw [same.name]
  exact R.map _ (settle_related _ _)

theorem inform_related (same : R.Respected σ) (update : Arbitration) (stack : List σ) :
    R.Rel (inform update stack) (inform update stack) := by
  induction stack with
  | nil => exact R.pure _
  | cons controller above ih =>
    apply R.bind (informOne_related same update controller)
    rintro ⟨controller, result⟩
    cases result with
    | error fault => exact R.pure _
    | ok _ => exact R.map _ ih

theorem installOn_related (catalog : Catalog) (program : List UInt8) (update : Arbitration) :
    R.Rel (installOn catalog program update) (installOn catalog program update) := by
  unfold installOn
  split
  · apply R.bind (R.log .info _)
    intro _
    apply R.bind (R.configure catalog program)
    intro result
    cases result with
    | error fault => exact R.log .warn _
    | ok _ => exact R.pure _
  · exact R.log .info _

theorem route_related (same : R.Respected σ) (catalog : Catalog) (program : List UInt8)
    (message : Message) (stack : List σ) :
    R.Rel (route catalog program message stack) (route catalog program message stack) := by
  apply R.bind (R.log .debug _)
  intro _
  cases message with
  | arbitration update =>
    exact R.bind (installOn_related catalog program update) fun _ =>
      inform_related same update stack
  | event event =>
    apply R.bind (offer_related same event stack)
    rintro ⟨stack, result⟩
    cases result with
    | error fault => exact R.pure _
    | ok taken =>
      cases taken with
      | true => exact R.pure _
      | false => exact R.map _ (R.log .debug _)
  | unknown => exact R.map _ (R.log .warn _)

end Plane

end SwitchAgent.Control
