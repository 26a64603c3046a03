import SwitchAgent.Control.Script
import SwitchAgent.Proofs.Control.Occasions

/-!
# Operations on a script

Every operation leaves its call behind, refused or not, and changes neither the ids nor the policy
of the script.
-/

namespace SwitchAgent.Control

open SwitchAgent.Action Device Pipeline

def Operation.call : Operation → Call
  | announce => .announce
  | configure catalog program => .configure catalog program
  | write request => .write request
  | acknowledge digestId listId => .acknowledge digestId listId
  | read => .read

namespace Script

/-- All calls, those that failed included. -/
def calls (script : Script) : List Call :=
  script.attempts.map Attempt.call

/-- Two scripts with the same ids and the same policy. -/
structure Alike (one other : Script) : Prop where
  deviceId : one.deviceId = other.deviceId
  electionId : one.electionId = other.electionId
  policy : one.policy = other.policy

theorem Alike.refl (script : Script) : Alike script script :=
  ⟨rfl, rfl, rfl⟩

theorem Alike.trans {one other another : Script} (first : Alike one other)
    (second : Alike other another) : Alike one another :=
  ⟨first.deviceId.trans second.deviceId, first.electionId.trans second.electionId,
    first.policy.trans second.policy⟩

theorem attempt_value (call : Call) (script : Script) :
    (attempt call script).value =
      match script.policy script.calls call with
      | none => .ok ()
      | some fault => .error fault := by
  unfold calls
  cases result : script.policy (script.attempts.map Attempt.call) call <;> simp [attempt, result]

theorem attempt_state (call : Call) (script : Script) :
    (attempt call script).state = { script with
      attempts := script.attempts ++ [⟨call, script.policy script.calls call⟩] } := by
  unfold calls
  cases result : script.policy (script.attempts.map Attempt.call) call <;> simp [attempt, result]

theorem attempt_alike (call : Call) (script : Script) :
    Alike (attempt call script).state script := by
  rw [attempt_state]
  exact ⟨rfl, rfl, rfl⟩

theorem attempt_calls (call : Call) (script : Script) :
    (attempt call script).state.calls = script.calls ++ [call] := by
  rw [attempt_state]
  simp [calls]

/-- An operation makes one attempt; a reading may take a message as well. -/
theorem perform_cases (operation : Operation) (script : Script) :
    (operation.perform script).state = (attempt operation.call script).state ∨
    ∃ messages, (operation.perform script).state =
      { (attempt operation.call script).state with messages } := by
  cases operation with
  | read =>
    cases refused : (attempt .read script).value with
    | error fault =>
      left
      simp [Operation.perform, Channel.read, Operation.call, refused]
    | ok _ =>
      cases waiting : (attempt .read script).state.messages with
      | nil =>
        left
        simp [Operation.perform, Channel.read, Operation.call, refused, nextMessage, waiting]
      | cons message rest =>
        right
        refine ⟨rest, ?_⟩
        simp [Operation.perform, Channel.read, Operation.call, refused, nextMessage, waiting]
  | _ => exact Or.inl rfl

theorem perform_alike (operation : Operation) (script : Script) :
    Alike (operation.perform script).state script := by
  have alike := attempt_alike operation.call script
  rcases perform_cases operation script with same | ⟨messages, same⟩
  · rw [same]
    exact alike
  · rw [same]
    exact ⟨alike.deviceId, alike.electionId, alike.policy⟩

theorem perform_calls (operation : Operation) (script : Script) :
    (operation.perform script).state.calls = script.calls ++ [operation.call] := by
  have calls := attempt_calls operation.call script
  rcases perform_cases operation script with same | ⟨messages, same⟩
  · rw [same]
    exact calls
  · rw [same]
    exact calls

theorem performAll_calls (operations : List Operation) (script : Script) :
    (Operation.performAll operations script).state.calls =
      script.calls ++ operations.map Operation.call := by
  induction operations generalizing script with
  | nil => exact (List.append_nil script.calls).symm
  | cons operation rest ih =>
    rw [Operation.performAll_cons_state, ih, perform_calls, List.map_cons, List.append_assoc]
    rfl

/-- An operation fails as the policy says. -/
theorem fault_of_perform (operation : Operation) (script : Script) :
    (operation.perform script).value.fault? = script.policy script.calls operation.call := by
  have value := attempt_value operation.call script
  cases refused : script.policy script.calls operation.call <;> rw [refused] at value <;>
    cases operation <;>
      simp_all [Operation.perform, Operation.call, Channel.read, Channel.announce,
        Channel.configure, Channel.write, Channel.acknowledge, Answer.fault?]

/-- A script is harmless if its policy has no fatal fault. -/
theorem harmless {script : Script}
    (bearable : ∀ past call fault, script.policy past call = some fault → fault.isFatal = false) :
    Channel.Harmless script := by
  intro past operation fault failed
  have alike : Alike (Operation.performAll past script).state script := by
    have kept (operation : Operation) (s : Script) (alike : Alike s script) :
        Alike (operation.perform s).state script := (perform_alike operation s).trans alike
    exact Operation.performAll_invariant kept past (Alike.refl script)
  rw [fault_of_perform, alike.policy] at failed
  exact bearable _ _ fault failed

theorem insertAll_calls (entities : List Entity) (script : Script) :
    (Channel.insertAll entities script).state.calls = script.calls ++
      [.write ((WriteRequest.empty script.deviceId script.electionId).insertAll entities)] :=
  attempt_calls _ script

theorem after_insertAll_calls (batches : List (List Entity)) (script : Script) :
    (after Channel.insertAll batches script).calls = script.calls ++ batches.map fun entities =>
      .write ((WriteRequest.empty script.deviceId script.electionId).insertAll entities) := by
  induction batches generalizing script with
  | nil => exact (List.append_nil script.calls).symm
  | cons entities rest ih =>
    have alike : Alike (Channel.insertAll entities script).state script := attempt_alike _ script
    have first := insertAll_calls entities script
    have later := ih (Channel.insertAll entities script).state
    rw [alike.deviceId, alike.electionId, first] at later
    rw [List.map_cons, List.append_cons]
    exact later

end Script

end SwitchAgent.Control
