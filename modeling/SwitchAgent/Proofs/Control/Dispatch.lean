import SwitchAgent.Proofs.Control.Course
import SwitchAgent.Proofs.Control.Series

/-!
# What a dispatch does

An event goes down the stack to the first controller that takes it or fails. An election goes up
the stack, behind the program, past every fault that is not fatal. In both cases the channel is
left by the calls one after the other, and a controller that is not called stays as it was.
-/

namespace SwitchAgent.Control.Plane

open SwitchAgent.Action Device Pipeline

variable {σ C : Type} [Channel C] [Controller σ C]

/-- A result that ends a run. -/
def IsFatal {α : Type} (result : Except Fault α) : Prop :=
  ∃ fault, result = .error fault ∧ (fault.kind = .config ∨ fault.kind = .protocol)

theorem not_isFatal_ok {α : Type} (a : α) : ¬ IsFatal (.ok a) := by
  rintro ⟨fault, failed, -⟩
  cases failed

theorem isFatal_error_iff {α : Type} (fault : Fault) :
    IsFatal (.error fault : Except Fault α) ↔ fault.isFatal = true := by
  rw [Fault.isFatal_iff, IsFatal]
  constructor
  · rintro ⟨_, same, kind⟩
    cases same
    exact kind
  · exact fun kind => ⟨fault, rfl, kind⟩

theorem map_eq_error_iff {α β : Type} {f : α → β} {result : Except Fault α} {fault : Fault} :
    result.map f = .error fault ↔ result = .error fault := by
  cases result <;> simp [Except.map]

/-- What the answer of a controller counts as. -/
def settled : Except Fault Bool → Except Fault Bool
  | .ok taken => .ok taken
  | .error fault => if fault.isFatal then .error fault else .ok true

omit [Channel C] in
theorem settle_value (name : String) (result : Except Fault Bool) (c : C) :
    (settle name result c).value = settled result := by
  cases result with
  | ok taken => rfl
  | error fault => cases fatal : fault.isFatal <;> simp [settle, settled, fatal, Action.error, warn]

omit [Channel C] in
theorem settle_state (name : String) (result : Except Fault Bool) (c : C) :
    (settle name result c).state = c := by
  cases result with
  | ok taken => rfl
  | error fault => cases fatal : fault.isFatal <;> simp [settle, fatal, Action.error, warn]

theorem settled_eq_error_iff {result : Except Fault Bool} {fault : Fault} :
    settled result = .error fault ↔ result = .error fault ∧ fault.isFatal = true := by
  cases result with
  | ok taken => simp [settled]
  | error other => cases fatal : other.isFatal <;> simp [settled, fatal] <;> grind

theorem settled_eq_passed_iff {result : Except Fault Bool} :
    settled result = .ok false ↔ result = .ok false := by
  cases result with
  | ok taken => rfl
  | error fault => cases fatal : fault.isFatal <;> simp [settled, fatal]

abbrev handling (event : Event) (controller : σ) : Action C (σ × Except Fault Bool) :=
  Controller.handle controller event

/-- The controller does not leave the event to those below it. -/
def Keeps (answer : σ × Except Fault Bool) : Prop :=
  answer.2 ≠ .ok false

omit [Channel C] in
theorem offerTo_value (event : Event) (controller : σ) (c : C) :
    (offerTo event controller c).value =
      ((handling event controller c).value.1, settled (handling event controller c).value.2) := by
  simp [offerTo, settle_value]

omit [Channel C] in
theorem offerTo_state (event : Event) (controller : σ) (c : C) :
    (offerTo event controller c).state = (handling event controller c).state := by
  simp [offerTo, settle_state]

section Offer

variable {event : Event} {above : List σ} {c : C}

omit [Channel C] in
theorem offer_cons_kept (kept : (offer event above c).value.2 ≠ .ok false) (controller : σ) :
    offer event (controller :: above) c =
      ⟨(controller :: (offer event above c).value.1, (offer event above c).value.2),
        (offer event above c).state, (offer event above c).log⟩ := by
  cases result : (offer event above c).value.2 with
  | error fault => simp [offer, result]
  | ok taken => cases taken <;> simp_all [offer]

omit [Channel C] in
theorem offer_cons_passed (passed : (offer event above c).value.2 = .ok false) (controller : σ) :
    let last := offerTo event controller (offer event above c).state
    offer event (controller :: above) c =
      ⟨(last.value.1 :: (offer event above c).value.1, last.value.2), last.state,
        (offer event above c).log ++ last.log⟩ := by
  simp [offer, passed]

end Offer

/-- How an event goes down a stack. -/
structure Offered (event : Event) (stack : List σ) (c : C) (called spared : List σ) : Prop where
  upTo : UpTo (handling event) Keeps stack.reverse c called spared
  channel : (offer event stack c).state = after (handling event) called c
  controllers : (offer event stack c).value.1 =
    ((answers (handling event) called c).map Prod.fst ++ spared).reverse
  result : (offer event stack c).value.2 =
    ((answers (handling event) called c).getLast?.map fun answer => settled answer.2).getD
      (.ok false)

namespace Offered

variable {event : Event} {above called spared : List σ} {c : C}

omit [Channel C] in
/-- Where the event was kept above, the next controller is spared. -/
theorem spare (offered : Offered event above c called spared)
    (halted : HaltsLast Keeps (answers (handling event) called c)) (controller : σ) :
    Offered event (controller :: above) c called (spared ++ [controller]) := by
  have kept : (offer event above c).value.2 ≠ .ok false := by
    obtain ⟨before, last, same, -, keeps⟩ := halted
    rw [offered.result, same, List.getLast?_concat]
    exact mt settled_eq_passed_iff.mp keeps
  refine ⟨?_, ?_, ?_, ?_⟩
  · rw [List.reverse_cons]
    exact offered.upTo.spare halted controller
  · rw [offer_cons_kept kept]
    exact offered.channel
  · rw [offer_cons_kept kept, offered.controllers]
    simp
  · rw [offer_cons_kept kept]
    exact offered.result

omit [Channel C] in
/-- Where the event was passed on by all above, the next controller is called. -/
theorem snoc (offered : Offered event above c called [])
    (passed : ∀ answer ∈ answers (handling event) called c, ¬ Keeps answer) (controller : σ) :
    Offered event (controller :: above) c (called ++ [controller]) [] := by
  have order : above.reverse = called := by
    rw [offered.upTo.order, List.append_nil]
  have left : (offer event above c).value.2 = .ok false := by
    rw [offered.result]
    cases last : (answers (handling event) called c).getLast? with
    | none => rfl
    | some answer =>
      have none := Classical.not_not.mp (passed answer (List.mem_of_getLast? last))
      rw [Option.map_some, none]
      rfl
  have parts := answers_append (handling event) called [controller] c
  refine ⟨?_, ?_, ?_, ?_⟩
  · rw [List.reverse_cons, order]
    exact UpTo.snoc passed controller
  · rw [offer_cons_passed left, offered.channel, offerTo_state, after_append]
    rfl
  · rw [offer_cons_passed left, offered.controllers, offered.channel, offerTo_value, parts]
    simp [answers]
  · rw [offer_cons_passed left, offered.channel, offerTo_value, parts]
    simp [answers]

end Offered

omit [Channel C] in
theorem exists_offered (event : Event) (stack : List σ) (c : C) :
    ∃ called spared, Offered event stack c called spared := by
  -- A stack is listed from the bottom, so every step adds a controller behind those asked so far.
  induction stack with
  | nil => exact ⟨[], [], .nil, rfl, rfl, rfl⟩
  | cons controller above ih =>
    obtain ⟨called, spared, offered⟩ := ih
    rcases offered.upTo.ended with halted | ⟨rfl, passed⟩
    · exact ⟨called, spared ++ [controller], offered.spare halted controller⟩
    · exact ⟨called ++ [controller], [], offered.snoc passed controller⟩

omit [Channel C] in
theorem offered_of_upTo {event : Event} {stack called spared : List σ} {c : C}
    (upTo : UpTo (handling event) Keeps stack.reverse c called spared) :
    Offered event stack c called spared := by
  obtain ⟨called', spared', offered⟩ := exists_offered event stack c
  obtain ⟨rfl, rfl⟩ := upTo.unique offered.upTo
  exact offered

theorem dispatch_event (event : Event) (plane : Plane σ C) :
    let offered := offer event plane.stack plane.channel
    (dispatch (.event event) plane).value = offered.value.2.map (fun _ => ()) ∧
    (dispatch (.event event) plane).state =
      { plane with channel := offered.state, stack := offered.value.1 } := by
  rw [dispatch_apply, onStack_apply]
  cases result : (offer event plane.stack plane.channel).value.2 with
  | error fault => simp [route, Action.debug, result, Except.map]
  | ok taken => cases taken <;> simp [route, Action.debug, result, Except.map]

/-- An event is handled from the top of the stack down, up to the first controller that takes it or
fails. Nothing else is done to the plane, and the dispatch fails exactly with a fatal fault of that
controller. -/
theorem event_goes_down_to_first_keeper (plane : Plane σ C) (event : Event) :
    let routed := dispatch (.event event) plane
    ∃ called spared, UpTo (handling event) Keeps plane.stack.reverse plane.channel called spared ∧
      let replies := answers (handling event) called plane.channel
      routed.state = { plane with
        channel := after (handling event) called plane.channel
        stack := (replies.map Prod.fst ++ spared).reverse } ∧
      ∀ fault, routed.value = .error fault ↔
        (fault.kind = .config ∨ fault.kind = .protocol) ∧
          replies.getLast?.map Prod.snd = some (.error fault) := by
  obtain ⟨called, spared, offered⟩ := exists_offered event plane.stack plane.channel
  obtain ⟨value, state⟩ := dispatch_event event plane
  refine ⟨called, spared, offered.upTo, ?_, fun fault => ?_⟩
  · rw [state, offered.channel, offered.controllers]
  · rw [value, offered.result, ← Fault.isFatal_iff]
    cases last : (answers (handling event) called plane.channel).getLast? with
    | none => simp [Except.map]
    | some answer =>
      rw [Option.map_some, Option.getD_some, map_eq_error_iff, settled_eq_error_iff,
        Option.map_some, Option.some_inj, and_comm]

abbrev informing (update : Arbitration) (controller : σ) : Action C (σ × Except Fault Unit) :=
  Controller.arbitrate controller update

omit [Channel C] in
theorem informOne_value (update : Arbitration) (controller : σ) (c : C) :
    (informOne update controller c).value =
      ((informing update controller c).value.1,
        settled ((informing update controller c).value.2.map fun _ => true)) := by
  simp [informOne, settle_value]

omit [Channel C] in
theorem informOne_state (update : Arbitration) (controller : σ) (c : C) :
    (informOne update controller c).state = (informing update controller c).state := by
  simp [informOne, settle_state]

/-- How an election goes up a stack. -/
structure Informed (update : Arbitration) (stack : List σ) (c : C) (called spared : List σ) :
    Prop where
  upTo : UpTo (informing update) (fun answer => IsFatal answer.2) stack c called spared
  channel : (inform update stack c).state = after (informing update) called c
  controllers : (inform update stack c).value.1 =
    (answers (informing update) called c).map Prod.fst ++ spared
  result : ∀ fault, (inform update stack c).value.2 = .error fault ↔
    (fault.kind = .config ∨ fault.kind = .protocol) ∧
      ∃ answer ∈ answers (informing update) called c, answer.2 = .error fault

section Inform

variable {update : Arbitration} {controller : σ} {c : C}

omit [Channel C] in
theorem inform_cons_fatal {fault : Fault}
    (failed : (informing update controller c).value.2 = .error fault)
    (fatal : fault.isFatal = true) (above : List σ) :
    (inform update (controller :: above) c).value =
      ((informing update controller c).value.1 :: above, .error fault) ∧
    (inform update (controller :: above) c).state = (informing update controller c).state := by
  have value := informOne_value update controller c
  have state := informOne_state update controller c
  have settles : settled ((informing update controller c).value.2.map fun _ => true) =
      .error fault := settled_eq_error_iff.mpr ⟨map_eq_error_iff.mpr failed, fatal⟩
  rw [settles] at value
  simp [inform, value, state]

omit [Channel C] in
theorem inform_cons_passed (passed : ¬ IsFatal (informing update controller c).value.2)
    (above : List σ) :
    let later := inform update above (informing update controller c).state
    (inform update (controller :: above) c).value =
      ((informing update controller c).value.1 :: later.value.1, later.value.2) ∧
    (inform update (controller :: above) c).state = later.state := by
  have value := informOne_value update controller c
  have state := informOne_state update controller c
  cases settles : settled ((informing update controller c).value.2.map fun _ => true) with
  | error fault =>
    obtain ⟨failed, fatal⟩ := settled_eq_error_iff.mp settles
    rw [map_eq_error_iff.mp failed, isFatal_error_iff] at passed
    exact absurd fatal passed
  | ok taken =>
    rw [settles] at value
    simp [inform, value, state]

end Inform

omit [Channel C] in
theorem exists_informed (update : Arbitration) (stack : List σ) (c : C) :
    ∃ called spared, Informed update stack c called spared := by
  induction stack generalizing c with
  | nil => exact ⟨[], [], .nil, rfl, rfl, by simp [inform, answers]⟩
  | cons controller above ih =>
    by_cases halts : IsFatal (informing update controller c).value.2
    · obtain ⟨fault, failed, kind⟩ := halts
      obtain ⟨value, state⟩ :=
        inform_cons_fatal failed ((Fault.isFatal_iff fault).mpr kind) above
      refine ⟨[controller], above, .halted ⟨fault, failed, kind⟩ above, state, ?_, fun other => ?_⟩
      · rw [value]
        rfl
      · rw [value]
        simp only [answers, List.mem_singleton, exists_eq_left, failed]
        constructor
        · intro same
          cases same
          exact ⟨kind, rfl⟩
        · exact fun both => both.2
    · obtain ⟨called, spared, informed⟩ := ih (informing update controller c).state
      obtain ⟨value, state⟩ := inform_cons_passed halts above
      refine ⟨controller :: called, spared, informed.upTo.cons halts,
        state.trans informed.channel, ?_, fun fault => ?_⟩
      · rw [value, informed.controllers]
        rfl
      · rw [value, informed.result]
        simp only [answers, List.mem_cons, exists_eq_or_imp]
        constructor
        · exact fun ⟨kind, later⟩ => ⟨kind, Or.inr later⟩
        · rintro ⟨kind, here | later⟩
          · exact absurd ⟨fault, here, kind⟩ halts
          · exact ⟨kind, later⟩

omit [Channel C] in
theorem informed_of_upTo {update : Arbitration} {stack called spared : List σ} {c : C}
    (upTo : UpTo (informing update) (fun answer => IsFatal answer.2) stack c called spared) :
    Informed update stack c called spared := by
  obtain ⟨called', spared', informed⟩ := exists_informed update stack c
  obtain ⟨rfl, rfl⟩ := upTo.unique informed.upTo
  exact informed

/-- The channel that the controllers are told of an election on. -/
def afterInstall (plane : Plane σ C) (update : Arbitration) : C :=
  if update.status.code = 0 then
    (Channel.configure plane.catalog plane.program plane.channel).state
  else plane.channel

omit [Controller σ C] in
theorem installOn_state (plane : Plane σ C) (update : Arbitration) :
    (installOn plane.catalog plane.program update plane.channel).state =
      afterInstall plane update := by
  by_cases elected : update.status.code = 0
  · cases result : (Channel.configure plane.catalog plane.program plane.channel).value <;>
      simp [installOn, afterInstall, Arbitration.isPrimary, Status.isOk, elected, result,
        Action.info, warn]
  · simp [installOn, afterInstall, Arbitration.isPrimary, Status.isOk, elected, Action.info]

theorem dispatch_arbitration (update : Arbitration) (plane : Plane σ C) :
    let informed := inform update plane.stack (afterInstall plane update)
    (dispatch (.arbitration update) plane).value = informed.value.2 ∧
    (dispatch (.arbitration update) plane).state =
      { plane with channel := informed.state, stack := informed.value.1 } := by
  simp [dispatch_apply, onStack_apply, route, Action.debug, installOn_state]

/-- Only an election of this controller puts its program on the switch, once and before any
controller is told. Then the controllers are told from the bottom of the stack up, past a refused
program and every fault that is not fatal. -/
theorem election_goes_up_past_harmless_faults (plane : Plane σ C) (update : Arbitration) :
    let routed := dispatch (.arbitration update) plane
    let start := if update.status.code = 0 then
      (Channel.configure plane.catalog plane.program plane.channel).state else plane.channel
    ∃ called spared,
      UpTo (informing update) (fun answer => IsFatal answer.2) plane.stack start called spared ∧
      let replies := answers (informing update) called start
      routed.state = { plane with
        channel := after (informing update) called start
        stack := replies.map Prod.fst ++ spared } ∧
      ∀ fault, routed.value = .error fault ↔
        (fault.kind = .config ∨ fault.kind = .protocol) ∧
          ∃ answer ∈ replies, answer.2 = .error fault := by
  obtain ⟨called, spared, informed⟩ :=
    exists_informed update plane.stack (afterInstall plane update)
  obtain ⟨value, state⟩ := dispatch_arbitration update plane
  refine ⟨called, spared, informed.upTo, ?_, fun fault => ?_⟩
  · rw [state, informed.channel, informed.controllers]
    rfl
  · rw [value]
    exact informed.result fault

/-- A dispatch fails with fatal faults only. -/
theorem isFatal_of_dispatch {message : Message} {plane : Plane σ C} {fault : Fault}
    (failed : (dispatch message plane).value = .error fault) :
    fault.kind = .config ∨ fault.kind = .protocol := by
  cases message with
  | arbitration update =>
    obtain ⟨called, spared, informed⟩ :=
      exists_informed update plane.stack (afterInstall plane update)
    rw [(dispatch_arbitration update plane).1] at failed
    exact ((informed.result fault).mp failed).1
  | event event =>
    obtain ⟨called, spared, offered⟩ := exists_offered event plane.stack plane.channel
    rw [(dispatch_event event plane).1, map_eq_error_iff, offered.result] at failed
    cases last : (answers (handling event) called plane.channel).getLast? with
    | none => simp [last] at failed
    | some answer =>
      rw [last, Option.map_some, Option.getD_some] at failed
      exact (Fault.isFatal_iff fault).mp (settled_eq_error_iff.mp failed).2
  | unknown => cases failed

end SwitchAgent.Control.Plane
