import Mathlib.Data.List.Forall2
import SwitchAgent.Fault

/-!
# Steps that may fail

One step after the other, a chain of steps fails with the fault of the first that does. Steps for
each element of a list are such a chain.
-/

namespace SwitchAgent

theorem exists_of_bind_ok {α β : Type} {first : Except Fault α} {next : α → Except Fault β} {b : β}
    (whole : (first >>= next) = .ok b) : ∃ a, first = .ok a ∧ next a = .ok b := by
  cases first with
  | error fault => cases whole
  | ok a => exact ⟨a, rfl, whole⟩

/-- What is made of a list is made of its elements, one by one. -/
theorem forall₂_of_mapM {α β : Type} {f : α → Except Fault β} {as : List α} {bs : List β}
    (made : as.mapM f = .ok bs) : List.Forall₂ (fun a b => f a = .ok b) as bs := by
  induction as generalizing bs with
  | nil =>
    cases made
    exact .nil
  | cons a as ih =>
    rw [List.mapM_cons] at made
    obtain ⟨b, first, made⟩ := exists_of_bind_ok made
    obtain ⟨rest, later, made⟩ := exists_of_bind_ok made
    cases made
    exact .cons first (ih later)

theorem error_of_bind_error {α β : Type} {first : Except Fault α} {next : α → Except Fault β}
    {fault : Fault} (whole : (first >>= next) = .error fault) :
    first = .error fault ∨ ∃ a, first = .ok a ∧ next a = .error fault := by
  cases first with
  | error other =>
    cases whole
    exact .inl rfl
  | ok a => exact .inr ⟨a, rfl, whole⟩

end SwitchAgent
