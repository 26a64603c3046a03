import SwitchAgent.Proofs.Control.Scripts

/-!
# Scripts without memory

Where a policy looks at nothing but the call, what was called before shows in the list of attempts
and nowhere else.
-/

namespace SwitchAgent.Control

open SwitchAgent.Action Device

/-- What a call comes to does not depend on the calls before it. -/
def Policy.Memoryless (policy : Policy) : Prop :=
  ∀ past call, policy past call = policy [] call

/-- What a call comes to where nothing was called before. -/
def Policy.outcome (policy : Policy) (call : Call) : Except Fault Unit :=
  match policy [] call with
  | none => .ok ()
  | some fault => .error fault

theorem Refusals.memoryless (refusals : Refusals) : refusals.policy.Memoryless := by
  intro past call
  cases call <;> rfl

namespace Script

/-- The script after these calls. -/
def tried (script : Script) (calls : List Call) : Script :=
  { script with
    attempts := script.attempts ++ calls.map fun call => ⟨call, script.policy [] call⟩ }

@[simp] theorem tried_policy (script : Script) (calls : List Call) :
    (script.tried calls).policy = script.policy := rfl

@[simp] theorem tried_deviceId (script : Script) (calls : List Call) :
    (script.tried calls).deviceId = script.deviceId := rfl

@[simp] theorem tried_electionId (script : Script) (calls : List Call) :
    (script.tried calls).electionId = script.electionId := rfl

@[simp] theorem tried_messages (script : Script) (calls : List Call) :
    (script.tried calls).messages = script.messages := rfl

@[simp] theorem tried_nil (script : Script) : script.tried [] = script := by
  rw [tried, List.map_nil, List.append_nil]

@[simp] theorem tried_tried (script : Script) (calls more : List Call) :
    (script.tried calls).tried more = script.tried (calls ++ more) := by
  simp [tried]

section Memoryless

variable {script : Script} (memoryless : script.policy.Memoryless)
include memoryless

theorem attempt_of_memoryless (call : Call) :
    (attempt call script).value = script.policy.outcome call ∧
    (attempt call script).state = script.tried [call] := by
  rw [attempt_value, attempt_state, memoryless, Policy.outcome, tried]
  exact ⟨rfl, rfl⟩

theorem perform_of_memoryless {operation : Operation} (noReading : operation ≠ .read) :
    (operation.perform script).state = script.tried [operation.call] := by
  cases operation with
  | read => exact absurd rfl noReading
  | announce => exact (attempt_of_memoryless memoryless .announce).2
  | configure catalog program =>
    exact (attempt_of_memoryless memoryless (.configure catalog program)).2
  | write request => exact (attempt_of_memoryless memoryless (.write request)).2
  | acknowledge digestId listId =>
    exact (attempt_of_memoryless memoryless (.acknowledge digestId listId)).2

theorem performAll_of_memoryless {operations : List Operation}
    (noReading : .read ∉ operations) :
    (Operation.performAll operations script).state =
      script.tried (operations.map Operation.call) := by
  induction operations generalizing script with
  | nil => exact script.tried_nil.symm
  | cons operation rest ih =>
    obtain ⟨first, later⟩ := not_or.mp (mt List.mem_cons.mpr noReading)
    have still : (script.tried [operation.call]).policy.Memoryless := memoryless
    have state := perform_of_memoryless memoryless (Ne.symm first)
    rw [Operation.performAll_cons_state, state, ih still later, tried_tried]
    rfl

theorem insertAll_of_memoryless (batches : List (List Entity)) :
    after Channel.insertAll batches script = script.tried (batches.map fun entities =>
      .write ((WriteRequest.empty script.deviceId script.electionId).insertAll entities)) := by
  induction batches generalizing script with
  | nil => exact script.tried_nil.symm
  | cons entities rest ih =>
    have first : (Channel.insertAll entities script).state = script.tried
        [.write ((WriteRequest.empty script.deviceId script.electionId).insertAll entities)] :=
      (attempt_of_memoryless memoryless _).2
    have still : (Channel.insertAll entities script).state.policy.Memoryless := by
      rw [first]
      exact memoryless
    have later := ih still
    rw [first] at later
    change after Channel.insertAll rest (Channel.insertAll entities script).state = _
    rw [first, later, tried_tried]
    rfl

theorem read_refused {fault : Fault} (refused : script.policy.outcome .read = .error fault) :
    (Channel.read script).value = .error fault ∧
    (Channel.read script).state = script.tried [.read] := by
  obtain ⟨value, state⟩ := attempt_of_memoryless memoryless .read
  rw [refused] at value
  simp [Channel.read, value, state]

theorem read_of_nil (accepted : script.policy.outcome .read = .ok ()) (ended : script.messages = []) :
    (Channel.read script).value = .ok none ∧
    (Channel.read script).state = script.tried [.read] := by
  obtain ⟨value, state⟩ := attempt_of_memoryless memoryless .read
  rw [accepted] at value
  simp [Channel.read, value, state, nextMessage, ended]

theorem read_of_cons (accepted : script.policy.outcome .read = .ok ()) {message : Message}
    {rest : List Message} (waiting : script.messages = message :: rest) :
    (Channel.read script).value = .ok (some message) ∧
    (Channel.read script).state = { script.tried [.read] with messages := rest } := by
  obtain ⟨value, state⟩ := attempt_of_memoryless memoryless .read
  rw [accepted] at value
  simp [Channel.read, value, state, nextMessage, waiting]

end Memoryless

theorem done_tried (script : Script) (calls : List Call) :
    (script.tried calls).done =
      script.done ++ calls.filter fun call => (script.policy [] call).isNone := by
  simp [done, tried, List.filter_map, Function.comp_def]

end Script

def Call.isWrite : Call → Bool
  | .write _ => true
  | _ => false

def SameButWrites (one other : List Call) : Prop :=
  one.filter (!·.isWrite) = other.filter (!·.isWrite)

namespace SameButWrites

theorem append {one other : List Call} (same : SameButWrites one other) (before after : List Call) :
    SameButWrites (before ++ one ++ after) (before ++ other ++ after) := by
  rw [SameButWrites] at same ⊢
  simp only [List.filter_append, same]

theorem flatMap {calls callsToo : Message → List Call}
    (each : ∀ message, SameButWrites (calls message) (callsToo message))
    (history : List Message) :
    SameButWrites (history.flatMap calls) (history.flatMap callsToo) := by
  rw [SameButWrites, List.filter_flatMap, List.filter_flatMap]
  congr 1
  funext message
  exact each message

/-- Only a write can be what a write is. -/
theorem ignoring {α : Type} (part : Call → Option α)
    (ignored : ∀ request, part (.write request) = none) (calls : List Call) :
    calls.filterMap part = (calls.filter (!·.isWrite)).filterMap part := by
  rw [List.filterMap_filter]
  congr 1
  funext call
  cases call with
  | write request => exact ignored request
  | _ => rfl

section Done

variable {one other : List Call} (same : SameButWrites one other)
include same

theorem done {α : Type} {part : Call → Option α} (ignored : ∀ request, part (.write request) = none)
    (script : Script) :
    (script.tried one).done.filterMap part = (script.tried other).done.filterMap part := by
  have order (calls : List Call) :
      ((calls.filter fun call => (script.policy [] call).isNone).filter (!·.isWrite)) =
        (calls.filter (!·.isWrite)).filter fun call => (script.policy [] call).isNone := by
    simp only [List.filter_filter, Bool.and_comm]
  -- What is refused is left out after the writes are, instead of before.
  rw [Script.done_tried, Script.done_tried, List.filterMap_append, List.filterMap_append,
    ignoring part ignored (List.filter _ one), ignoring part ignored (List.filter _ other),
    order, order, same]

theorem acknowledgements (script : Script) :
    (script.tried one).acknowledgements = (script.tried other).acknowledgements :=
  same.done (fun _ => rfl) script

theorem programs (script : Script) : (script.tried one).programs = (script.tried other).programs :=
  same.done (fun _ => rfl) script

end Done

end SameButWrites

end SwitchAgent.Control
