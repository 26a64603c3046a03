import SwitchAgent.Proofs.Control.Correspondence
import SwitchAgent.Proofs.Control.Dispatch
import SwitchAgent.Proofs.Session.Operation

/-!
# What may happen to a plane

Messages are dispatched, and its channel is used in between. What every use of a channel keeps is
kept by whatever happens, since controllers have nothing but the channel to use.
-/

namespace SwitchAgent.Control

open SwitchAgent.Action Device Pipeline

/-- One thing that happens to a plane: the operations are those of its owner, such as the readings
of a run. -/
inductive Occasion where
  | message (message : Message)
  | operation (operation : Operation)

def Answer.fault? : Answer → Option Fault
  | .done (.error fault) => some fault
  | .got (.error fault) => some fault
  | _ => none

theorem Answer.fault?_done {result : Except Fault Unit} {fault : Fault} :
    (Answer.done result).fault? = some fault ↔ result = .error fault := by
  cases result <;> simp [fault?]

theorem Answer.fault?_got {result : Except Fault (Option Message)} {fault : Fault} :
    (Answer.got result).fault? = some fault ↔ result = .error fault := by
  cases result <;> simp [fault?]

variable {σ C : Type} [Channel C]

/-- Whatever operations it has seen, the channel fails with no fatal fault. -/
def Channel.Harmless (channel : C) : Prop :=
  ∀ past operation fault,
    (Operation.perform operation (Operation.performAll past channel).state).value.fault? =
      some fault → fault.isFatal = false

namespace Channel.Harmless

variable {channel : C}

theorem performed (harmless : Harmless channel) (operation : Operation) :
    Harmless (operation.perform channel).state := by
  intro past next fault failed
  rw [← Operation.performAll_cons_state] at failed
  exact harmless (operation :: past) next fault failed

theorem installed (harmless : Harmless channel) (batches : List (List Entity)) :
    Harmless (after Channel.insertAll batches channel) :=
  after_invariant (fun entities channel harmless =>
    harmless.performed (.write ((Channel.emptyRequest channel).insertAll entities))) batches
    harmless

theorem acknowledge (harmless : Harmless channel) {digestId : UInt32} {listId : UInt64}
    {fault : Fault} (failed : (Channel.acknowledge digestId listId channel).value = .error fault) :
    fault.isFatal = false := by
  refine harmless [] (.acknowledge digestId listId) fault ?_
  simp [Operation.perform, failed, Answer.fault?]

end Channel.Harmless

namespace LineSession

theorem kind_of_awaitMessage (lines : List Line) {session : LineSession} {fault : Fault}
    (failed : (awaitMessage lines session).value = .error fault) : fault.kind = .transport := by
  induction lines using Line.byContent with
  | nil => cases failed
  | broken line rest h ih =>
    rw [awaitMessage_broken session rest h] at failed
    cases failed
    rfl
  | idle line rest h ih =>
    rw [awaitMessage_idle session rest h] at failed
    exact ih failed
  | message line rest m h ih =>
    rw [awaitMessage_message session rest h] at failed
    cases failed
  | reply line rest status h ih =>
    rw [awaitMessage_reply session rest h] at failed
    exact ih failed

theorem kind_of_nextMessage {session : LineSession} {fault : Fault}
    (failed : (nextMessage session).value = .error fault) : fault.kind = .transport := by
  cases pending : session.pending with
  | cons m rest =>
    rw [nextMessage_pending pending] at failed
    cases failed
  | nil =>
    cases closed : session.closed with
    | true =>
      rw [nextMessage_closed pending closed] at failed
      cases failed
    | false =>
      rw [nextMessage_open pending closed] at failed
      exact kind_of_awaitMessage _ failed

theorem kind_of_perform {operation : Operation} {session : LineSession} {fault : Fault}
    (failed : (operation.perform session).value.fault? = some fault) : fault.kind = .transport := by
  rcases operation.kinds session with rfl | ⟨request, sends⟩
  · rw [Operation.perform_read, Answer.fault?_got] at failed
    exact kind_of_nextMessage failed
  · by_cases call : operation.IsCall
    · rw [Operation.perform_call call sends, Answer.fault?_done] at failed
      cases result : (LineSession.call request session).value with
      | ok _ =>
        rw [result] at failed
        cases failed
      | error cause =>
        -- What a call waited for in vain is wrapped, and the wrapping is of transport as well.
        rw [result] at failed
        cases operation <;> cases failed <;> first | rfl | exact absurd call id
    · rw [Operation.perform_signal call sends, Answer.fault?_done, send_apply] at failed
      cases accepts : session.link.accepts <;> rw [accepts] at failed <;> cases failed
      rfl

/-- Over a session nothing fatal can come from the channel. -/
theorem harmless (session : LineSession) : Channel.Harmless session := by
  intro past operation fault failed
  rw [Fault.isFatal, kind_of_perform failed]
  rfl

end LineSession

section Keeping

variable {property : C → Prop}

/-- Actions that keep what every operation keeps. -/
def keeping (kept : ∀ operation channel, property channel →
    property (Operation.perform operation channel).state) : Correspondence C C where
  Rel action _ := ∀ channel, property channel → property (action channel).state
  pure _ _ h := h
  bind first next channel h := next _ _ (first channel h)
  aside _ _ _ h := h
  log _ _ _ h := h
  configure catalog program := kept (.configure catalog program)
  insertAll entities channel :=
    kept (.write ((Channel.emptyRequest channel).insertAll entities)) channel
  acknowledge digestId listId := kept (.acknowledge digestId listId)

end Keeping

namespace Plane

variable [Controller σ C]

def undergo : Occasion → Action (Plane σ C) Unit
  | .message message => do
    let _ ← dispatch message
  | .operation operation => do
    let _ ← onChannel operation.perform

@[simp] theorem undergo_message_state (message : Message) (plane : Plane σ C) :
    (undergo (.message message) plane).state = (dispatch message plane).state := rfl

@[simp] theorem undergo_operation_state (operation : Operation) (plane : Plane σ C) :
    (undergo (.operation operation) plane).state =
      { plane with channel := (operation.perform plane.channel).state } := rfl

variable {property : C → Prop} (kept : ∀ operation channel, property channel →
  property (Operation.perform operation channel).state)

theorem dispatch_keeps (same : (keeping kept).Respected σ) (message : Message)
    {plane : Plane σ C} (h : property plane.channel) :
    property (dispatch message plane).state.channel := by
  rw [dispatch_apply, onStack_apply]
  exact route_related same plane.catalog plane.program message plane.stack plane.channel h

theorem history_keeps (same : (keeping kept).Respected σ) (history : List Occasion)
    {plane : Plane σ C} (h : property plane.channel) :
    property (after undergo history plane).channel := by
  have each (occasion : Occasion) (plane : Plane σ C) (h : property plane.channel) :
      property (undergo occasion plane).state.channel := by
    cases occasion with
    | message message => exact dispatch_keeps kept same message h
    | operation operation => exact kept operation plane.channel h
  exact after_invariant each history h

end Plane

end SwitchAgent.Control
