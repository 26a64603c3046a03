import Mathlib.Data.List.TakeDrop
import SwitchAgent.Proofs.Session.Operation

/-!
# Delivery over a session

Whatever operations follow each other, the messages that were handed out, those that are queued and
those in the lines still unread make up what the switch sent, in its order. A call takes the lines
up to its reply and none after it. Writes may fail at any time.
-/

namespace SwitchAgent.Control

open Device Network

namespace LineSession

/-- A session on a new connection. -/
def opened (deviceId electionId : UInt64) (incoming : List UInt8) (link : Link) : LineSession :=
  { ofIncoming deviceId electionId incoming with link }

/-- The messages still to be handed out, in their order. -/
def undelivered (session : LineSession) : List Message :=
  session.pending ++ messagesIn session.unread

/-- Every line left is text, and none is left once the end was seen. -/
structure Legible (session : LineSession) : Prop where
  text : ∀ line ∈ session.unread, line.IsText
  ended : session.closed = true → session.unread = []

theorem awaitReply_undelivered (lines : List Line) (session : LineSession) :
    (awaitReply lines session).state.undelivered = session.pending ++ messagesIn lines := by
  induction lines using Line.byContent generalizing session with
  | nil => simp [undelivered]
  | broken line rest h ih =>
    rw [awaitReply_broken session rest h, messagesIn_cons, h]
    simp [undelivered, Content.message?]
  | idle line rest h ih =>
    rw [awaitReply_idle session rest h, messagesIn_cons]
    rcases h with h | h <;> simpa [h, Content.message?] using ih session
  | message line rest m h ih =>
    rw [awaitReply_message session rest h, messagesIn_cons, h, ih]
    simp [Content.message?]
  | reply line rest status h ih =>
    rw [awaitReply_reply session rest h, messagesIn_cons, h]
    simp [undelivered, Content.message?]

/-- A reader hands out the first message it meets, so the queue has to be empty. -/
theorem awaitMessage_undelivered (lines : List Line) {session : LineSession}
    (empty : session.pending = []) :
    Answer.received (.got (awaitMessage lines session).value) ++
      (awaitMessage lines session).state.undelivered = messagesIn lines := by
  induction lines using Line.byContent with
  | nil => simp [undelivered, empty, Answer.received]
  | broken line rest h ih =>
    rw [awaitMessage_broken session rest h, messagesIn_cons, h]
    simp [undelivered, empty, Content.message?, Answer.received]
  | idle line rest h ih =>
    rw [awaitMessage_idle session rest h, messagesIn_cons]
    rcases h with h | h <;> simpa [h, Content.message?] using ih
  | message line rest m h ih =>
    rw [awaitMessage_message session rest h, messagesIn_cons, h]
    simp [undelivered, empty, Content.message?, Answer.received]
  | reply line rest status h ih =>
    rw [awaitMessage_reply session rest h, messagesIn_cons, h]
    simpa [Content.message?] using ih

theorem nextMessage_undelivered (session : LineSession) :
    Answer.received (.got (nextMessage session).value) ++
      (nextMessage session).state.undelivered = session.undelivered := by
  cases pending : session.pending with
  | cons m rest =>
    rw [nextMessage_pending pending]
    simp [undelivered, pending, Answer.received]
  | nil =>
    cases closed : session.closed with
    | true =>
      rw [nextMessage_closed pending closed]
      simp [Answer.received]
    | false =>
      rw [nextMessage_open pending closed, awaitMessage_undelivered _ pending]
      simp [undelivered, pending]

theorem call_undelivered (request : Request) (session : LineSession) :
    (call request session).state.undelivered = session.undelivered := by
  cases accepts : session.link.accepts with
  | false =>
    rw [call_refused request accepts]
    rfl
  | true =>
    rw [call_accepted request accepts, awaitReply_undelivered]
    rfl

end LineSession

namespace Operation

open LineSession

theorem perform_undelivered (operation : Operation) (session : LineSession) :
    (operation.perform session).value.received ++ (operation.perform session).state.undelivered =
      session.undelivered := by
  rcases operation.kinds session with rfl | ⟨request, sends⟩
  · rw [perform_read]
    exact nextMessage_undelivered session
  · by_cases call : operation.IsCall
    · rw [perform_call call sends]
      exact call_undelivered request session
    · rw [perform_signal call sends, send_apply]
      rfl

theorem performAll_undelivered (operations : List Operation) (session : LineSession) :
    received (performAll operations session).value ++
      (performAll operations session).state.undelivered = session.undelivered := by
  induction operations generalizing session with
  | nil => rfl
  | cons operation rest ih =>
    have first := perform_undelivered operation session
    have later := ih (operation.perform session).state
    rw [performAll_cons_value, performAll_cons_state, received, List.flatMap_cons,
      List.append_assoc, ← first, ← later]
    rfl

end Operation

namespace LineSession

theorem awaitReply_legible (lines : List Line) (session : LineSession)
    (text : ∀ line ∈ lines, line.IsText) (ended : session.closed = true → lines = []) :
    (awaitReply lines session).state.Legible := by
  induction lines using Line.byContent generalizing session with
  | nil => exact ⟨by simp, fun _ => rfl⟩
  | broken line rest h ih =>
    exact absurd (text line List.mem_cons_self) ((Line.content_eq_broken_iff line).mp h)
  | idle line rest h ih =>
    rw [awaitReply_idle session rest h]
    exact ih session (fun l hl => text l (List.mem_cons_of_mem line hl)) (fun c => by cases ended c)
  | message line rest m h ih =>
    rw [awaitReply_message session rest h]
    exact ih _ (fun l hl => text l (List.mem_cons_of_mem line hl)) (fun c => by cases ended c)
  | reply line rest status h ih =>
    rw [awaitReply_reply session rest h]
    exact ⟨fun l hl => text l (List.mem_cons_of_mem line hl), fun c => by cases ended c⟩

theorem awaitMessage_legible (lines : List Line) (session : LineSession)
    (text : ∀ line ∈ lines, line.IsText) (ended : session.closed = true → lines = []) :
    (awaitMessage lines session).state.Legible := by
  induction lines using Line.byContent with
  | nil => exact ⟨by simp, fun _ => rfl⟩
  | broken line rest h ih =>
    exact absurd (text line List.mem_cons_self) ((Line.content_eq_broken_iff line).mp h)
  | idle line rest h ih =>
    rw [awaitMessage_idle session rest h]
    exact ih (fun l hl => text l (List.mem_cons_of_mem line hl)) (fun c => by cases ended c)
  | message line rest m h ih =>
    rw [awaitMessage_message session rest h]
    exact ⟨fun l hl => text l (List.mem_cons_of_mem line hl), fun c => by cases ended c⟩
  | reply line rest status h ih =>
    rw [awaitMessage_reply session rest h]
    exact ih (fun l hl => text l (List.mem_cons_of_mem line hl)) (fun c => by cases ended c)

theorem call_legible (request : Request) {session : LineSession} (legible : session.Legible) :
    (call request session).state.Legible := by
  cases accepts : session.link.accepts with
  | false =>
    rw [call_refused request accepts]
    exact ⟨legible.text, legible.ended⟩
  | true =>
    rw [call_accepted request accepts]
    exact awaitReply_legible _ _ legible.text legible.ended

theorem nextMessage_legible {session : LineSession} (legible : session.Legible) :
    (nextMessage session).state.Legible := by
  cases pending : session.pending with
  | cons m rest =>
    rw [nextMessage_pending pending]
    exact ⟨legible.text, legible.ended⟩
  | nil =>
    cases closed : session.closed with
    | true =>
      rw [nextMessage_closed pending closed]
      exact legible
    | false =>
      rw [nextMessage_open pending closed]
      exact awaitMessage_legible _ _ legible.text legible.ended

theorem opened_legible {incoming : List UInt8} (deviceId electionId : UInt64) (link : Link)
    (text : ∀ line ∈ Line.split incoming, line.IsText) :
    (opened deviceId electionId incoming link).Legible :=
  ⟨text, fun closed => by cases closed⟩

end LineSession

theorem Operation.perform_legible (operation : Operation) {session : LineSession}
    (legible : session.Legible) : (operation.perform session).state.Legible := by
  rcases operation.kinds session with rfl | ⟨request, sends⟩
  · rw [perform_read]
    exact LineSession.nextMessage_legible legible
  · by_cases call : operation.IsCall
    · rw [perform_call call sends]
      exact LineSession.call_legible request legible
    · rw [perform_signal call sends, LineSession.send_apply]
      exact ⟨legible.text, legible.ended⟩

namespace LineSession

theorem awaitReply_answered {before : List Line} {line : Line} {status : Status}
    (after : List Line) (session : LineSession) (text : ∀ l ∈ before, l.IsText)
    (unanswered : repliesIn before = []) (reply : line.content = .reply status) :
    (awaitReply (before ++ line :: after) session).value = verdict status ∧
      (awaitReply (before ++ line :: after) session).state =
        { session with unread := after, pending := session.pending ++ messagesIn before } := by
  induction before using Line.byContent generalizing session with
  | nil => simp [awaitReply_reply session after reply]
  | broken l rest h ih =>
    exact absurd (text l List.mem_cons_self) ((Line.content_eq_broken_iff l).mp h)
  | idle l rest h ih =>
    rw [repliesIn_cons, List.append_eq_nil_iff] at unanswered
    have later := ih session (fun k hk => text k (List.mem_cons_of_mem l hk)) unanswered.2
    rw [List.cons_append, awaitReply_idle session _ h, messagesIn_cons]
    rcases h with h | h <;> simpa [h, Content.message?] using later
  | message l rest m h ih =>
    rw [repliesIn_cons, List.append_eq_nil_iff] at unanswered
    have later := ih { session with pending := session.pending ++ [m] }
      (fun k hk => text k (List.mem_cons_of_mem l hk)) unanswered.2
    rw [List.cons_append, awaitReply_message session _ h, messagesIn_cons, h]
    simpa [Content.message?] using later
  | reply l rest other h ih =>
    rw [repliesIn_cons, h] at unanswered
    cases unanswered

theorem awaitReply_unanswered {lines : List Line} (session : LineSession)
    (text : ∀ l ∈ lines, l.IsText) (unanswered : repliesIn lines = []) :
    (awaitReply lines session).value = .error .noReply ∧
      (awaitReply lines session).state =
        { session with
          unread := []
          pending := session.pending ++ messagesIn lines
          closed := true } := by
  induction lines using Line.byContent generalizing session with
  | nil => simp
  | broken l rest h ih =>
    exact absurd (text l List.mem_cons_self) ((Line.content_eq_broken_iff l).mp h)
  | idle l rest h ih =>
    rw [repliesIn_cons, List.append_eq_nil_iff] at unanswered
    have later := ih session (fun k hk => text k (List.mem_cons_of_mem l hk)) unanswered.2
    rw [awaitReply_idle session _ h, messagesIn_cons]
    rcases h with h | h <;> simpa [h, Content.message?] using later
  | message l rest m h ih =>
    rw [repliesIn_cons, List.append_eq_nil_iff] at unanswered
    have later := ih { session with pending := session.pending ++ [m] }
      (fun k hk => text k (List.mem_cons_of_mem l hk)) unanswered.2
    rw [awaitReply_message session _ h, messagesIn_cons, h]
    simpa [Content.message?] using later
  | reply l rest other h ih =>
    rw [repliesIn_cons, h] at unanswered
    cases unanswered

/-- A reader never fails on text: it hands out the next message, or none if none is left. -/
theorem awaitMessage_value {lines : List Line} (session : LineSession)
    (text : ∀ l ∈ lines, l.IsText) :
    (awaitMessage lines session).value = .ok (messagesIn lines).head? := by
  induction lines using Line.byContent with
  | nil => rfl
  | broken l rest h ih =>
    exact absurd (text l List.mem_cons_self) ((Line.content_eq_broken_iff l).mp h)
  | idle l rest h ih =>
    have later := ih fun k hk => text k (List.mem_cons_of_mem l hk)
    rw [awaitMessage_idle session rest h, messagesIn_cons]
    rcases h with h | h <;> simpa [h, Content.message?] using later
  | message l rest m h ih =>
    rw [awaitMessage_message session rest h, messagesIn_cons, h]
    rfl
  | reply l rest status h ih =>
    have later := ih fun k hk => text k (List.mem_cons_of_mem l hk)
    rw [awaitMessage_reply session rest h, messagesIn_cons, h]
    simpa [Content.message?] using later

theorem nextMessage_value {session : LineSession} (legible : session.Legible) :
    (nextMessage session).value = .ok session.undelivered.head? := by
  cases pending : session.pending with
  | cons m rest =>
    rw [nextMessage_pending pending]
    simp [undelivered, pending]
  | nil =>
    cases closed : session.closed with
    | true =>
      have none := legible.ended closed
      rw [nextMessage_closed pending closed]
      simp [undelivered, pending, none]
    | false =>
      rw [nextMessage_open pending closed, awaitMessage_value session legible.text]
      simp [undelivered, pending]

end LineSession

namespace Operation

open LineSession

/-- How a call and its reply belong together. -/
structure CallPaired (operation : Operation) (request : Request) (session : LineSession) :
    Prop where
  refused : session.link.accepts = false →
    (operation.perform session).value = .done (.error (operation.complaint .streamWrite)) ∧
    (operation.perform session).state =
      { session with link := session.link.after (encodeRequest request) }
  answered : session.link.accepts = true → ∀ before line after status,
    session.unread = before ++ line :: after → repliesIn before = [] →
    line.content = .reply status →
    (operation.perform session).value = .done (if status.code = 0 then .ok ()
      else .error (operation.complaint (.refused status.message status.code.toInt))) ∧
    (operation.perform session).state =
      { session with
        unread := after
        pending := session.pending ++ messagesIn before
        link := session.link.after (encodeRequest request) }
  unanswered : session.link.accepts = true → repliesIn session.unread = [] →
    (operation.perform session).value = .done (.error (operation.complaint .noReply)) ∧
    (operation.perform session).state =
      { session with
        unread := []
        pending := session.pending ++ messagesIn session.unread
        closed := true
        link := session.link.after (encodeRequest request) }

theorem callPaired {operation : Operation} (call : operation.IsCall) {request : Request}
    {session : LineSession} (sends : operation.request? session = some request)
    (legible : session.Legible) : operation.CallPaired request session where
  refused refused := by
    rw [perform_call call sends, call_refused request refused]
    exact ⟨rfl, rfl⟩
  answered accepted before line after status unread unanswered reply := by
    have text : ∀ l ∈ before, l.IsText := fun l hl =>
      legible.text l (unread ▸ List.mem_append_left _ hl)
    have taken := awaitReply_answered after
      { session with link := session.link.after (encodeRequest request) } text unanswered reply
    rw [← unread] at taken
    obtain ⟨value, state⟩ := taken
    rw [perform_call call sends, call_accepted request accepted]
    refine ⟨?_, state⟩
    dsimp only
    rw [value]
    by_cases code : status.code = 0 <;> simp [verdict, Status.isOk, code, Except.mapError]
  unanswered accepted unanswered := by
    rw [perform_call call sends, call_accepted request accepted]
    obtain ⟨value, state⟩ := awaitReply_unanswered
      { session with link := session.link.after (encodeRequest request) } legible.text unanswered
    exact ⟨by rw [value]; rfl, state⟩

/-- An operation that waits for nothing leaves alone what comes in. -/
def SignalPassed (operation : Operation) (request : Request) (session : LineSession) : Prop :=
  operation.perform session =
    ⟨.done (if session.link.accepts then .ok () else .error .streamWrite),
      { session with link := session.link.after (encodeRequest request) }, []⟩

/-- A reading hands out the next message; there is none once the end was seen and the queue is
empty. -/
def ReadServed (session : LineSession) : Prop :=
  (perform read session).value = .got (.ok session.undelivered.head?) ∧
  (perform read session).state.undelivered = session.undelivered.tail

theorem readServed {session : LineSession} (legible : session.Legible) : ReadServed session := by
  have kept := perform_undelivered read session
  have value : (perform read session).value = .got (.ok session.undelivered.head?) := by
    rw [perform_read, nextMessage_value legible]
  refine ⟨value, ?_⟩
  rw [value] at kept
  cases left : session.undelivered with
  | nil => simpa [left, Answer.received] using kept
  | cons m rest => simpa [left, Answer.received] using kept

/-- After any operations nothing the switch sent is lost, doubled or out of order, and every
operation that may follow takes the part of the stream that belongs to it. -/
theorem delivery_in_order_and_calls_paired (deviceId electionId : UInt64) (incoming : List UInt8)
    (link : Link) (text : ∀ line ∈ Line.split incoming, line.IsText)
    (operations : List Operation) :
    let past := performAll operations (opened deviceId electionId incoming link)
    let session := past.state
    received past.value ++ session.pending ++ messagesIn session.unread =
      messagesIn (Line.split incoming) ∧
    (session.closed = true → session.unread = []) ∧
    (∀ operation : Operation, ∀ request, operation.request? session = some request →
      (operation.IsCall → operation.CallPaired request session) ∧
      (¬ operation.IsCall → operation.SignalPassed request session)) ∧
    ReadServed session := by
  intro past session
  have start := opened_legible deviceId electionId link text
  have legible : session.Legible :=
    performAll_invariant (fun operation _ h => operation.perform_legible h) operations start
  have kept := performAll_undelivered operations (opened deviceId electionId incoming link)
  refine ⟨?_, legible.ended, ?_, readServed legible⟩
  · rw [List.append_assoc]
    exact kept
  · intro operation request sends
    refine ⟨fun call => callPaired call sends legible, fun signal => ?_⟩
    rw [SignalPassed]
    rw [perform_signal signal sends, send_apply]

/-- A message that overtakes a reply. -/
def overtaking : List UInt8 :=
  Text.Utf8.encode <|
    "\x7b\"type\":\"Stream\",\"body\":\x7b\"type\":\"Late\"\x7d\x7d\n" ++
    "\x7b\"type\":\"Reply\",\"body\":\x7b\"code\":0,\"message\":\"\"\x7d\x7d\n"

theorem overtaking_message_kept :
    (∀ line ∈ Line.split overtaking, line.IsText) ∧
    (messagesIn (Line.split overtaking)).length = 1 ∧
    let past := performAll [.write (.empty 1 10)] (opened 1 10 overtaking {})
    received past.value ++ past.state.pending ++ messagesIn past.state.unread =
      messagesIn (Line.split overtaking) := by
  have text : ∀ line ∈ Line.split overtaking, line.IsText := by decide +kernel
  exact ⟨text, by decide +kernel,
    (delivery_in_order_and_calls_paired 1 10 overtaking {} text [.write (.empty 1 10)]).1⟩

end Operation

end SwitchAgent.Control
