import SwitchAgent.Proofs.Session.Reading

/-!
# Sequences of operations

A channel is used by one operation after the other, in any order. What a sequence comes to is the
list of answers and the state that is left.
-/

namespace SwitchAgent.Control

open Device Network Pipeline

inductive Operation where
  | announce
  | configure (catalog : Catalog) (program : List UInt8)
  | write (request : WriteRequest)
  | acknowledge (digestId : UInt32) (listId : UInt64)
  | read

inductive Answer where
  | done (result : Except Fault Unit)
  | got (result : Except Fault (Option Message))

/-- The message that an answer hands out. -/
def Answer.received : Answer → List Message
  | .got (.ok (some m)) => [m]
  | _ => []

def received (answers : List Answer) : List Message :=
  answers.flatMap Answer.received

namespace Operation

section Channel

variable {C : Type} [Channel C]

def perform : Operation → Action C Answer
  | announce => return .done (← Channel.announce)
  | configure catalog program => return .done (← Channel.configure catalog program)
  | write request => return .done (← Channel.write request)
  | acknowledge digestId listId => return .done (← Channel.acknowledge digestId listId)
  | read => return .got (← Channel.read)

def performAll : List Operation → Action C (List Answer)
  | [] => return []
  | operation :: rest => do
    let answer ← operation.perform
    return answer :: (← performAll rest)

@[simp] theorem performAll_nil (c : C) : performAll [] c = ⟨[], c, []⟩ := rfl

theorem performAll_cons_value (operation : Operation) (rest : List Operation) (c : C) :
    (performAll (operation :: rest) c).value =
      (operation.perform c).value :: (performAll rest (operation.perform c).state).value := by
  simp [performAll]

theorem performAll_cons_state (operation : Operation) (rest : List Operation) (c : C) :
    (performAll (operation :: rest) c).state =
      (performAll rest (operation.perform c).state).state := by
  simp [performAll]

/-- What every operation keeps, every sequence keeps. -/
theorem performAll_invariant {property : C → Prop}
    (preserves : ∀ operation c, property c → property (perform operation c).state)
    (operations : List Operation) {c : C} (initial : property c) :
    property (performAll operations c).state := by
  induction operations generalizing c with
  | nil => exact initial
  | cons operation rest ih =>
    rw [performAll_cons_state]
    exact ih (preserves operation c initial)

end Channel

/-- Operations that wait for a reply. -/
def IsCall : Operation → Prop
  | configure _ _ | write _ => True
  | _ => False

instance (operation : Operation) : Decidable operation.IsCall :=
  match operation with
  | configure _ _ | write _ => isTrue trivial
  | announce | acknowledge _ _ | read => isFalse id

/-- How a call reports why it failed. -/
def complaint : Operation → Fault → Fault
  | configure _ _ => .pipelineFailed
  | write _ => .writeFailed
  | _ => id

/-- What a session sends for an operation. -/
def request? (session : LineSession) : Operation → Option Request
  | announce => some (.arbitration session.deviceId (.ofLow session.electionId))
  | configure catalog program =>
    some (.setPipeline session.deviceId (.ofLow session.electionId) catalog.document program)
  | write request => some (.write request)
  | acknowledge digestId listId => some (.acknowledge digestId listId)
  | read => none

theorem perform_signal {operation : Operation} (signal : ¬ operation.IsCall) {request : Request}
    {session : LineSession} (sends : operation.request? session = some request) :
    operation.perform session =
      ⟨.done (LineSession.send request session).value, (LineSession.send request session).state,
        (LineSession.send request session).log⟩ := by
  cases operation with
  | announce => cases sends; simp [perform, Channel.announce]
  | acknowledge digestId listId => cases sends; simp [perform, Channel.acknowledge]
  | configure catalog program => exact absurd trivial signal
  | write request => exact absurd trivial signal
  | read => cases sends

theorem perform_call {operation : Operation} (call : operation.IsCall) {request : Request}
    {session : LineSession} (sends : operation.request? session = some request) :
    operation.perform session =
      ⟨.done ((LineSession.call request session).value.mapError operation.complaint),
        (LineSession.call request session).state, (LineSession.call request session).log⟩ := by
  cases operation with
  | configure catalog program => cases sends; simp [perform, Channel.configure, complaint]
  | write request => cases sends; simp [perform, Channel.write, complaint]
  | announce => exact absurd call id
  | acknowledge digestId listId => exact absurd call id
  | read => exact absurd call id

theorem perform_read (session : LineSession) :
    perform read session =
      ⟨.got (LineSession.nextMessage session).value, (LineSession.nextMessage session).state,
        (LineSession.nextMessage session).log⟩ := by
  simp [perform, Channel.read]

/-- An operation sends without waiting, calls, or reads. -/
theorem kinds (operation : Operation) (session : LineSession) :
    operation = read ∨ ∃ request, operation.request? session = some request := by
  cases operation with
  | read => exact Or.inl rfl
  | _ => exact Or.inr ⟨_, rfl⟩

end Operation

namespace LineSession

theorem call_refused {session : LineSession} (request : Request)
    (refused : session.link.accepts = false) :
    call request session =
      ⟨.error .streamWrite,
        { session with link := session.link.after (encodeRequest request) }, []⟩ := by
  simp [call, send_apply, refused]

/-- Once the request is out, a call waits for its reply. -/
theorem call_accepted {session : LineSession} (request : Request)
    (accepted : session.link.accepts = true) :
    call request session =
      awaitReply session.unread
        { session with link := session.link.after (encodeRequest request) } := by
  simp [call, send_apply, accepted]

theorem nextMessage_pending {session : LineSession} {m : Message} {rest : List Message}
    (pending : session.pending = m :: rest) :
    nextMessage session = ⟨.ok (some m), { session with pending := rest }, []⟩ := by
  simp [nextMessage, pending]

theorem nextMessage_closed {session : LineSession} (pending : session.pending = [])
    (closed : session.closed = true) :
    nextMessage session = ⟨.ok none, session, []⟩ := by
  simp [nextMessage, pending, closed]

theorem nextMessage_open {session : LineSession} (pending : session.pending = [])
    (opened : session.closed = false) :
    nextMessage session = awaitMessage session.unread session := by
  simp [nextMessage, pending, opened]

end LineSession

end SwitchAgent.Control
