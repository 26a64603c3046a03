import SwitchAgent.Proofs.Control.Dispatch

/-!
# Controllers that pass on an event

A controller that leaves an event to others, and leaves the channel as it was, might as well not
stand in the stack. Two controllers of which one passes on the event may change places.
-/

namespace SwitchAgent.Control.Plane

open Device

variable {σ C : Type} [Controller σ C]

/-- The controller leaves the event to others, and nothing shows that it was asked. -/
def Passes (C : Type) [Controller σ C] (event : Event) (controller : σ) : Prop :=
  ∀ c : C, (Controller.handle controller event c).value = (controller, .ok false) ∧
    (Controller.handle controller event c).state = c

/-- Stacks that do the same with an event and leave these controllers. -/
structure OfferedAlike (event : Event) (one other : List σ) (c : C)
    (left leftToo : List σ) : Prop where
  result : (offer event one c).value.2 = (offer event other c).value.2
  channel : (offer event one c).state = (offer event other c).state
  controllers : (offer event one c).value.1 = left
  controllersToo : (offer event other c).value.1 = leftToo

variable {event : Event} {a b : σ} {c : C}

theorem OfferedAlike.symm {one other left leftToo : List σ}
    (alike : OfferedAlike event one other c left leftToo) :
    OfferedAlike event other one c leftToo left :=
  ⟨alike.result.symm, alike.channel.symm, alike.controllersToo, alike.controllers⟩

/-- What is below asks nothing of those above but their answer. -/
theorem OfferedAlike.cons {one other left leftToo : List σ}
    (alike : OfferedAlike event one other c left leftToo) (controller : σ) :
    ∃ changed, OfferedAlike event (controller :: one) (controller :: other) c (changed :: left)
      (changed :: leftToo) := by
  obtain ⟨result, channel, rfl, rfl⟩ := alike
  -- The controller is asked in both stacks or in neither.
  by_cases passed : (offer event one c).value.2 = .ok false
  · have passedToo := result.symm.trans passed
    refine ⟨(offerTo event controller (offer event one c).state).value.1, ?_, ?_, ?_, ?_⟩
    · rw [offer_cons_passed passed, offer_cons_passed passedToo, channel]
    · rw [offer_cons_passed passed, offer_cons_passed passedToo, channel]
    · rw [offer_cons_passed passed]
    · rw [offer_cons_passed passedToo, channel]
  · have keptToo : (offer event other c).value.2 ≠ .ok false := by rwa [← result]
    refine ⟨controller, ?_, ?_, ?_, ?_⟩
    · rw [offer_cons_kept passed, offer_cons_kept keptToo, result]
    · rw [offer_cons_kept passed, offer_cons_kept keptToo, channel]
    · rw [offer_cons_kept passed]
    · rw [offer_cons_kept keptToo]

/-- A controller that passes on the event does nothing for those above it. -/
theorem offer_cons_passing (passes : Passes C event a) (above : List σ) (c : C) :
    OfferedAlike event (a :: above) above c (a :: (offer event above c).value.1)
      (offer event above c).value.1 := by
  obtain ⟨value, state⟩ := passes (offer event above c).state
  by_cases passed : (offer event above c).value.2 = .ok false
  · refine ⟨?_, ?_, ?_, rfl⟩
    · rw [offer_cons_passed passed, offerTo_value, value, passed]
      rfl
    · rw [offer_cons_passed passed, offerTo_state, state]
    · rw [offer_cons_passed passed, offerTo_value, value]
  · refine ⟨?_, ?_, ?_, rfl⟩
    · rw [offer_cons_kept passed]
    · rw [offer_cons_kept passed]
    · rw [offer_cons_kept passed]

/-- Nor does it for one below it. -/
theorem offer_pair_passing (passes : Passes C event a) (b : σ) (c : C) :
    ∃ changed, OfferedAlike event [b, a] [b] c [changed, a] [changed] := by
  have alone : OfferedAlike event [a] [] c [a] [] := offer_cons_passing passes [] c
  exact alone.cons b

/-- Neighbours may change places where one of them passes on the event. -/
theorem offer_pair_exchanged (passes : Passes C event a) (b : σ) (c : C) :
    ∃ changed, OfferedAlike event [a, b] [b, a] c [a, changed] [changed, a] := by
  obtain ⟨changed, below⟩ := offer_pair_passing passes b c
  -- Both stacks do what `b` does alone.
  have above := offer_cons_passing passes [b] c
  rw [below.controllersToo] at above
  exact ⟨changed, above.result.trans below.result.symm, above.channel.trans below.channel.symm,
    above.controllers, below.controllers⟩

theorem offer_exchanged (passes : Passes C event a ∨ Passes C event b) (f : σ) (c : C) :
    ∃ f' a' b', OfferedAlike event [f, a, b] [f, b, a] c [f', a', b'] [f', b', a'] := by
  rcases passes with passes | passes
  · obtain ⟨b', pair⟩ := offer_pair_exchanged passes b c
    obtain ⟨f', alike⟩ := pair.cons f
    exact ⟨f', a, b', alike⟩
  · obtain ⟨a', pair⟩ := offer_pair_exchanged passes a c
    obtain ⟨f', alike⟩ := pair.symm.cons f
    exact ⟨f', a', b, alike⟩

end SwitchAgent.Control.Plane
