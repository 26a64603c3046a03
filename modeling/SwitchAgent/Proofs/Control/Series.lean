import SwitchAgent.Action

/-!
# Acting on one element after the other

The same kind of action for every element of a list, each on the state that the one before it
left. Where an answer may halt the series, the elements up to the first such answer are acted on
and the others are spared.
-/

namespace SwitchAgent.Action

variable {σ α β : Type}

def answers (act : α → Action σ β) : List α → σ → List β
  | [], _ => []
  | a :: as, s => (act a s).value :: answers act as (act a s).state

/-- The state that a series leaves: the effects of its actions, one after the other. -/
def after (act : α → Action σ β) (as : List α) (s : σ) : σ :=
  as.foldl (fun s a => (act a s).state) s

section Append

variable (act : α → Action σ β) (as bs : List α) (s : σ)

theorem after_append : after act (as ++ bs) s = after act bs (after act as s) := by
  rw [after, List.foldl_append]
  rfl

theorem answers_append :
    answers act (as ++ bs) s = answers act as s ++ answers act bs (after act as s) := by
  induction as generalizing s with
  | nil => rfl
  | cons a as ih => exact congrArg ((act a s).value :: ·) (ih (act a s).state)

end Append

/-- What every action keeps, the series keeps. -/
theorem after_invariant {act : α → Action σ β} {property : σ → Prop}
    (preserves : ∀ a s, property s → property (act a s).state) (as : List α) {s : σ}
    (initial : property s) : property (after act as s) := by
  induction as generalizing s with
  | nil => exact initial
  | cons a as ih => exact ih (preserves a s initial)

/-- The answers of a series whose last one is the only one that halts. -/
def HaltsLast (halts : β → Prop) (answers : List β) : Prop :=
  ∃ before last, answers = before ++ [last] ∧ (∀ answer ∈ before, ¬ halts answer) ∧ halts last

/-- The elements are acted on in their order up to the first whose answer halts, and the others are
spared. -/
structure UpTo (act : α → Action σ β) (halts : β → Prop) (order : List α) (s : σ)
    (called spared : List α) : Prop where
  order : order = called ++ spared
  ended : HaltsLast halts (answers act called s) ∨
    spared = [] ∧ ∀ answer ∈ answers act called s, ¬ halts answer

namespace UpTo

variable {act : α → Action σ β} {halts : β → Prop} {order called spared : List α} {s : σ} {a : α}

theorem nil : UpTo act halts [] s [] [] :=
  ⟨rfl, Or.inr ⟨rfl, nofun⟩⟩

theorem halted (h : halts (act a s).value) (as : List α) : UpTo act halts (a :: as) s [a] as :=
  ⟨rfl, Or.inl ⟨[], (act a s).value, rfl, nofun, h⟩⟩

theorem cons (h : ¬ halts (act a s).value)
    (rest : UpTo act halts order (act a s).state called spared) :
    UpTo act halts (a :: order) s (a :: called) spared := by
  refine ⟨congrArg (a :: ·) rest.order, ?_⟩
  rcases rest.ended with ⟨before, last, answers, passed, halted⟩ | ⟨nobody, passed⟩
  · exact Or.inl ⟨(act a s).value :: before, last, congrArg ((act a s).value :: ·) answers,
      List.forall_mem_cons.mpr ⟨h, passed⟩, halted⟩
  · exact Or.inr ⟨nobody, List.forall_mem_cons.mpr ⟨h, passed⟩⟩

/-- After a series in which nothing halts there is room for one more element. -/
theorem snoc (passed : ∀ answer ∈ answers act order s, ¬ halts answer) (a : α) :
    UpTo act halts (order ++ [a]) s (order ++ [a]) [] := by
  have parts : answers act (order ++ [a]) s =
      answers act order s ++ [(act a (after act order s)).value] := answers_append act order [a] s
  refine ⟨(List.append_nil _).symm, ?_⟩
  rw [parts]
  by_cases h : halts (act a (after act order s)).value
  · exact Or.inl ⟨_, _, rfl, passed, h⟩
  · refine Or.inr ⟨rfl, List.forall_mem_append.mpr ⟨passed, ?_⟩⟩
    exact List.forall_mem_singleton.mpr h

/-- After a series that has halted one more element is spared. -/
theorem spare (h : UpTo act halts order s called spared)
    (halted : HaltsLast halts (answers act called s)) (a : α) :
    UpTo act halts (order ++ [a]) s called (spared ++ [a]) :=
  ⟨by rw [h.order, List.append_assoc], Or.inl halted⟩

/-- The first element is where the series halts, or the rest of it goes on without halting there. -/
theorem first (h : UpTo act halts (a :: order) s called spared) :
    (halts (act a s).value ∧ called = [a] ∧ spared = order) ∨
    (¬ halts (act a s).value ∧ ∃ later, called = a :: later ∧
      UpTo act halts order (act a s).state later spared) := by
  obtain ⟨parts, ended⟩ := h
  cases called with
  | nil =>
    rcases ended with ⟨before, last, none, -⟩ | ⟨rfl, -⟩
    · exact absurd none.symm (List.append_ne_nil_of_right_ne_nil before (List.cons_ne_nil last []))
    · cases parts
  | cons b later =>
    obtain ⟨rfl, order⟩ := List.cons.inj parts
    rcases ended with ⟨before, last, same, passed, halted⟩ | ⟨nobody, passed⟩
    · cases before with
      | nil =>
        obtain ⟨rfl, none⟩ := List.cons.inj same
        cases later with
        | nil => exact Or.inl ⟨halted, rfl, order.symm⟩
        | cons c later => cases none
      | cons answer before =>
        obtain ⟨rfl, others⟩ := List.cons.inj same
        obtain ⟨here, passed⟩ := List.forall_mem_cons.mp passed
        exact Or.inr ⟨here, later, rfl, order, Or.inl ⟨before, last, others, passed, halted⟩⟩
    · obtain ⟨here, passed⟩ := List.forall_mem_cons.mp passed
      exact Or.inr ⟨here, later, rfl, order, Or.inr ⟨nobody, passed⟩⟩

/-- Where a series stops is determined. -/
theorem unique {called' spared' : List α} (h : UpTo act halts order s called spared)
    (h' : UpTo act halts order s called' spared') : called = called' ∧ spared = spared' := by
  induction order generalizing s called called' with
  | nil =>
    obtain ⟨rfl, rfl⟩ := List.append_eq_nil_iff.mp h.order.symm
    obtain ⟨rfl, rfl⟩ := List.append_eq_nil_iff.mp h'.order.symm
    exact ⟨rfl, rfl⟩
  | cons a order ih =>
    rcases h.first with ⟨halted, rfl, rfl⟩ | ⟨passed, later, rfl, rest⟩
    · rcases h'.first with ⟨-, rfl, rfl⟩ | ⟨passed, -⟩
      · exact ⟨rfl, rfl⟩
      · exact absurd halted passed
    · rcases h'.first with ⟨halted, -⟩ | ⟨-, later', rfl, rest'⟩
      · exact absurd halted passed
      · obtain ⟨rfl, rfl⟩ := ih rest rest'
        exact ⟨rfl, rfl⟩

/-- A series in which nothing halts spares nobody. -/
theorem whole (passed : ∀ answer ∈ answers act order s, ¬ halts answer) :
    UpTo act halts order s order [] :=
  ⟨(List.append_nil order).symm, Or.inr ⟨rfl, passed⟩⟩

end UpTo

end SwitchAgent.Action
