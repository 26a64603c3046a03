import SwitchAgent.Control.Script
import SwitchAgent.Proofs.Session.Transcript

/-!
# Conversations and scripts

A conversation agrees with a script that holds the same messages: the switch never refuses, so
what a script grants a session is granted too, and both hand out the messages in order however
they are overtaken or overtake.
-/

namespace SwitchAgent.Control

open Device Network Pipeline

namespace Call

/-- What a session sends for a call. -/
def request? (deviceId electionId : UInt64) : Call → Option Request
  | announce => some (.arbitration deviceId (.ofLow electionId))
  | configure catalog program =>
    some (.setPipeline deviceId (.ofLow electionId) catalog.document program)
  | write request => some (.write request)
  | acknowledge digestId listId => some (.acknowledge digestId listId)
  | read => none

/-- Whether the switch answers. -/
def isAnswered : Call → Bool
  | configure _ _ | write _ => true
  | _ => false

end Call

namespace Script

/-- What a session would have sent. -/
def lines (script : Script) : List Line :=
  (script.done.filterMap (Call.request? script.deviceId script.electionId)).map
    LineSession.encodeRequest

def answers (script : Script) : Nat :=
  script.done.countP Call.isAnswered

/-- The script after a call that did not fail. -/
def recorded (script : Script) (call : Call) : Script :=
  { script with attempts := script.attempts ++ [⟨call, none⟩] }

variable {script : Script}

theorem attempt_apply (obliging : ∀ past call, script.policy past call = none) (call : Call) :
    attempt call script = ⟨.ok (), script.recorded call, []⟩ := by
  simp [attempt, obliging, recorded]

@[simp] theorem done_recorded (call : Call) :
    (script.recorded call).done = script.done ++ [call] := by
  simp [done, recorded]

theorem read_some (obliging : ∀ past call, script.policy past call = none) {message : Message}
    {rest : List Message} (left : script.messages = message :: rest) :
    Channel.read script =
      ⟨.ok (some message), { script.recorded .read with messages := rest }, []⟩ := by
  have same : (script.recorded .read).messages = message :: rest := left
  simp [Channel.read, attempt_apply obliging, nextMessage, same]

theorem read_none (obliging : ∀ past call, script.policy past call = none)
    (left : script.messages = []) :
    Channel.read script = ⟨.ok none, script.recorded .read, []⟩ := by
  have same : (script.recorded .read).messages = [] := left
  simp [Channel.read, attempt_apply obliging, nextMessage, same]

theorem lines_recorded (call : Call) :
    (script.recorded call).lines = script.lines ++
      ((call.request? script.deviceId script.electionId).map LineSession.encodeRequest).toList := by
  have ids : (script.recorded call).lines =
      ((script.done ++ [call]).filterMap (Call.request? script.deviceId script.electionId)).map
        LineSession.encodeRequest := by
    rw [lines, done_recorded]
    rfl
  rw [ids, List.filterMap_append, List.map_append, lines]
  cases h : call.request? script.deviceId script.electionId <;> simp [h]

theorem answers_recorded (call : Call) :
    (script.recorded call).answers = script.answers + if call.isAnswered then 1 else 0 := by
  rw [answers, done_recorded, List.countP_append]
  simp [answers, List.countP_cons]

/-- Readings send nothing. -/
theorem lines_read : (script.recorded .read).lines = script.lines := by
  rw [lines_recorded]
  exact List.append_nil _

theorem answers_read : (script.recorded .read).answers = script.answers :=
  answers_recorded .read

end Script

namespace Utterance

theorem messagesIn_lines (utterances : List Utterance) :
    messagesIn (Sentence.lines (utterances.map toSentence)) = messages utterances := by
  induction utterances with
  | nil => rfl
  | cons utterance rest ih =>
    have first : utterance.toSentence.line.content.message? = some utterance.message := by
      rw [utterance.meaning]
      rfl
    rw [List.map_cons, Sentence.lines, List.map_cons, messagesIn_cons, first]
    rw [Sentence.lines] at ih
    rw [ih]
    rfl

theorem repliesIn_lines (utterances : List Utterance) :
    repliesIn (Sentence.lines (utterances.map toSentence)) = [] := by
  induction utterances with
  | nil => rfl
  | cons utterance rest ih =>
    have first : utterance.toSentence.line.content.reply? = none := by
      rw [utterance.meaning]
      rfl
    rw [List.map_cons, Sentence.lines, List.map_cons, repliesIn_cons, first]
    exact ih

end Utterance

namespace Consent

theorem messagesIn_line (consent : Consent) :
    messagesIn (Sentence.lines [consent.toSentence]) = [] := by
  have none : consent.toSentence.line.content.message? = none := by
    rw [consent.meaning]
    rfl
  rw [Sentence.lines, List.map_cons, List.map_nil, messagesIn_cons, none]
  rfl

theorem repliesIn_line (consent : Consent) :
    repliesIn (Sentence.lines [consent.toSentence]) = [⟨0, consent.text⟩] := by
  have reply : consent.toSentence.line.content.reply? = some ⟨0, consent.text⟩ := by
    rw [consent.meaning]
    rfl
  rw [Sentence.lines, List.map_cons, List.map_nil, repliesIn_cons, reply]
  rfl

end Consent

namespace Conversation

/-- The script is as far as the conversation, in which these messages are spoken in all. -/
structure Agrees (spoken : List Message) (c : Conversation) (script : Script) : Prop where
  deviceId : script.deviceId = c.session.deviceId
  electionId : script.electionId = c.session.electionId
  left : script.messages = c.left
  written : c.session.link.written = script.lines
  obliging (past : List Call) (call : Call) : script.policy past call = none
  spoken : messagesIn (Sentence.lines c.transcript) = spoken
  /-- Every call was answered once, and with consent. -/
  consents : (repliesIn (Sentence.lines c.sent)).map Status.code =
    List.replicate script.answers 0

variable {spoken : List Message} {c : Conversation} {script : Script}

theorem Agrees.messagesIn_wire (agrees : c.Agrees spoken script) :
    messagesIn (Line.split (Sentence.wire c.transcript)) = spoken := by
  rw [Sentence.split_wire]
  exact agrees.spoken

/-- What the switch had not said when the conversation ended are messages only. -/
theorem Agrees.repliesIn_wire (agrees : c.Agrees spoken script) :
    (repliesIn (Line.split (Sentence.wire c.transcript))).map Status.code =
      List.replicate script.answers 0 := by
  rw [Sentence.split_wire, transcript, Sentence.lines_append, repliesIn_append,
    Utterance.repliesIn_lines, List.append_nil]
  exact agrees.consents

/-- Messages that overtake a consent only go from what is unsent to the queue. -/
theorem overtakers_append (c : Conversation) (request : Request) :
    c.overtakers request ++ (c.answered request).unsent = c.unsent :=
  List.take_append_drop _ _

theorem Agrees.answered (agrees : c.Agrees spoken script) (ready : c.Ready) {call : Call}
    {request : Request} (answer : call.isAnswered = true)
    (sends : call.request? c.session.deviceId c.session.electionId = some request) :
    (c.answered request).Agrees spoken (script.recorded call) where
  deviceId := agrees.deviceId
  electionId := agrees.electionId
  left := by
    have later : (c.answered request).left =
        c.session.pending ++ Utterance.messages (c.overtakers request) ++
          Utterance.messages (c.answered request).unsent := rfl
    rw [later, List.append_assoc, ← Utterance.messages_append, overtakers_append]
    exact agrees.left
  written := by
    rw [← agrees.deviceId, ← agrees.electionId] at sends
    rw [Script.lines_recorded, sends, ← agrees.written]
    simp [Conversation.answered, Link.after, ready.accepted]
  obliging := agrees.obliging
  spoken := by
    have whole : (c.answered request).transcript =
        c.sent ++ ((c.overtakers request).map Utterance.toSentence ++
          [(c.consent request).toSentence]) ++
          (c.answered request).unsent.map Utterance.toSentence := rfl
    rw [whole, ← agrees.spoken, transcript]
    simp only [Sentence.lines_append, messagesIn_append, Utterance.messagesIn_lines,
      Consent.messagesIn_line, List.nil_append, List.append_assoc]
    rw [← Utterance.messages_append, overtakers_append]
  consents := by
    have whole : (c.answered request).sent =
        c.sent ++ ((c.overtakers request).map Utterance.toSentence ++
          [(c.consent request).toSentence]) := rfl
    rw [whole, Script.answers_recorded, if_pos answer, List.replicate_succ', ← agrees.consents]
    simp only [Sentence.lines_append, repliesIn_append, Utterance.repliesIn_lines,
      Consent.repliesIn_line, List.nil_append, List.map_append, List.map_cons, List.map_nil]

theorem Agrees.signalled (agrees : c.Agrees spoken script) (ready : c.Ready) {call : Call}
    {request : Request} (silent : call.isAnswered = false)
    (sends : call.request? c.session.deviceId c.session.electionId = some request) :
    (c.signalled request).Agrees spoken (script.recorded call) where
  deviceId := agrees.deviceId
  electionId := agrees.electionId
  left := agrees.left
  written := by
    rw [← agrees.deviceId, ← agrees.electionId] at sends
    rw [Script.lines_recorded, sends, ← agrees.written]
    simp [Conversation.signalled, Link.after, ready.accepted]
  obliging := agrees.obliging
  spoken := agrees.spoken
  consents := by
    rw [Script.answers_recorded, silent]
    exact agrees.consents

/-- From an agreeing script the same comes, and the script hands out no message. -/
def Follows (spoken : List Message) {α : Type} (talk : Action Conversation α)
    (scripted : Action Script α) : Prop :=
  ∀ (c : Conversation) (script : Script), c.Ready → c.Agrees spoken script →
    (talk c).state.Ready ∧ (talk c).state.Agrees spoken (scripted script).state ∧
    (scripted script).state.messages = script.messages ∧
    (talk c).value = (scripted script).value ∧ (talk c).log = (scripted script).log

namespace Follows

variable {α β : Type}

theorem bind {talk : Action Conversation α} {scripted : Action Script α}
    {next : α → Action Conversation β} {following : α → Action Script β}
    (first : Follows spoken talk scripted) (rest : ∀ a, Follows spoken (next a) (following a)) :
    Follows spoken (talk >>= next) (scripted >>= following) := by
  intro c script ready agrees
  obtain ⟨ready, agrees, kept, value, log⟩ := first c script ready agrees
  obtain ⟨ready, agrees, keptLater, valueLater, logLater⟩ :=
    rest (talk c).value (talk c).state (scripted script).state ready agrees
  rw [value] at ready agrees keptLater valueLater logLater
  simp only [Action.bind_apply, value, log]
  exact ⟨ready, agrees, keptLater.trans kept, valueLater, by rw [logLater]⟩

theorem silent {talk : Action Conversation α} {scripted : Action Script α}
    (alone : ∀ c, (talk c).state = c)
    (same : ∀ c script, scripted script = ⟨(talk c).value, script, (talk c).log⟩) :
    Follows spoken talk scripted := by
  intro c script ready agrees
  rw [alone, same c script]
  exact ⟨ready, agrees, rfl, rfl, rfl⟩

/-- A call is granted on both sides. -/
theorem call (call : Call) (answer : call.isAnswered = true)
    (request : UInt64 → UInt64 → Request)
    (sends : ∀ deviceId electionId, call.request? deviceId electionId =
      some (request deviceId electionId)) :
    Follows spoken
      (fun c => Conversation.call (request c.session.deviceId c.session.electionId) c)
      (Script.attempt call) := by
  intro c script ready agrees
  dsimp only
  rw [call_ready ready, Script.attempt_apply agrees.obliging]
  exact ⟨ready.answered _, agrees.answered ready answer (sends _ _), rfl, rfl, rfl⟩

theorem signal (call : Call) (silent : call.isAnswered = false)
    (request : UInt64 → UInt64 → Request)
    (sends : ∀ deviceId electionId, call.request? deviceId electionId =
      some (request deviceId electionId)) :
    Follows spoken
      (fun c => onSession
        (LineSession.send (request c.session.deviceId c.session.electionId)) c)
      (Script.attempt call) := by
  intro c script ready agrees
  dsimp only
  rw [send_ready ready, Script.attempt_apply agrees.obliging]
  exact ⟨ready.signalled _, agrees.signalled ready silent (sends _ _), rfl, rfl, rfl⟩

/-- Device and election are the same on both sides. -/
theorem knowing {talk : UInt64 → UInt64 → Action Conversation α}
    {scripted : UInt64 → UInt64 → Action Script α}
    (h : ∀ deviceId electionId,
      Follows spoken (talk deviceId electionId) (scripted deviceId electionId)) :
    Follows spoken (fun c => talk c.session.deviceId c.session.electionId c)
      (fun script => scripted script.deviceId script.electionId script) := by
  intro c script ready agrees
  dsimp only
  rw [agrees.deviceId, agrees.electionId]
  exact h c.session.deviceId c.session.electionId c script ready agrees

/-- Consent is consent, however a refusal would have been reported. -/
theorem granted {talk : Action Conversation (Except Fault Unit)}
    {scripted : Action Script (Except Fault Unit)} (complaint : Fault → Fault)
    (h : Follows spoken talk scripted)
    (grants : ∀ c, c.Ready → (talk c).value = .ok ()) :
    Follows spoken (talk >>= fun result => pure (result.mapError complaint)) scripted := by
  intro c script ready agrees
  obtain ⟨readyAfter, agrees, kept, value, log⟩ := h c script ready agrees
  refine ⟨readyAfter, agrees, kept, ?_, ?_⟩
  · rw [← value, Action.bind_apply, Action.pure_apply, grants c ready]
    rfl
  · rw [← log, Action.bind_apply, Action.pure_apply, List.append_nil]

theorem configure (catalog : Catalog) (program : List UInt8) :
    Follows spoken (Channel.configure catalog program) (Channel.configure catalog program) := by
  have asked : Follows spoken _ (Script.attempt (.configure catalog program)) :=
    call (.configure catalog program) rfl (fun deviceId electionId =>
      .setPipeline deviceId (.ofLow electionId) catalog.document program) fun _ _ => rfl
  exact asked.granted Fault.pipelineFailed fun c ready => by rw [call_ready ready]

theorem insertAll (entities : List Entity) :
    Follows spoken (Channel.insertAll entities) (Channel.insertAll entities) := by
  have written (request : WriteRequest) :
      Follows spoken (Channel.write request) (Channel.write request) :=
    (call (.write request) rfl (fun _ _ => .write request) fun _ _ => rfl).granted
      Fault.writeFailed fun c ready => by rw [call_ready ready]
  have asked := knowing fun deviceId electionId =>
    written ((WriteRequest.empty deviceId electionId).insertAll entities)
  exact asked

theorem acknowledge (digestId : UInt32) (listId : UInt64) :
    Follows spoken (Channel.acknowledge digestId listId) (Channel.acknowledge digestId listId) :=
  signal (.acknowledge digestId listId) rfl (fun _ _ => .acknowledge digestId listId) fun _ _ => rfl

end Follows

/-- Whatever controllers do in a conversation, they do over a script. -/
def following (spoken : List Message) : Correspondence Conversation Script where
  Rel := Follows spoken
  pure _ := Follows.silent (fun _ => rfl) fun _ _ => rfl
  bind := Follows.bind
  aside _ _ := Follows.silent (fun _ => rfl) fun _ _ => rfl
  log _ _ := Follows.silent (fun _ => rfl) fun _ _ => rfl
  configure := Follows.configure
  insertAll := Follows.insertAll
  acknowledge := Follows.acknowledge

theorem handed_session (c : Conversation) :
    c.handed.session.deviceId = c.session.deviceId ∧
      c.handed.session.electionId = c.session.electionId ∧
      c.handed.session.link = c.session.link := by
  rw [handed]
  split <;> exact ⟨rfl, rfl, rfl⟩

/-- Whether a message is handed out from the queue or fresh, the switch says the same in all. -/
theorem handed_transcript (c : Conversation) : c.handed.transcript = c.transcript := by
  rw [handed]
  split <;> simp [transcript, *]

theorem repliesIn_spokenUp (c : Conversation) : repliesIn (Sentence.lines c.spokenUp) = [] := by
  rw [spokenUp]
  split
  · exact Utterance.repliesIn_lines _
  · rfl

theorem Agrees.handed (agrees : c.Agrees spoken script) {message : Message} {rest : List Message}
    (left : c.left = message :: rest) :
    c.handed.Agrees spoken { script.recorded .read with messages := rest } where
  deviceId := agrees.deviceId.trans c.handed_session.1.symm
  electionId := agrees.electionId.trans c.handed_session.2.1.symm
  left := (handed_left left).symm
  written := by
    rw [c.handed_session.2.2, agrees.written]
    exact Script.lines_read.symm
  obliging := agrees.obliging
  spoken := by rw [handed_transcript, agrees.spoken]
  consents := by
    rw [handed_sent, Sentence.lines_append, repliesIn_append, repliesIn_spokenUp, List.append_nil,
      agrees.consents]
    exact congrArg (List.replicate · 0) Script.answers_read.symm

theorem Agrees.ended (agrees : c.Agrees spoken script) :
    c.ended.Agrees spoken (script.recorded .read) where
  deviceId := agrees.deviceId
  electionId := agrees.electionId
  left := agrees.left
  written := agrees.written.trans Script.lines_read.symm
  obliging := agrees.obliging
  spoken := agrees.spoken
  consents := by
    rw [Script.answers_read]
    exact agrees.consents

/-- The course of a conversation is that of a script it agrees with, to the end if there are
readings enough for all messages. -/
theorem course_agrees {σ : Type} [Controller σ Conversation] [Controller σ Script]
    (respected : (following spoken).Respected σ) (catalog : Catalog) (program : List UInt8)
    (limit : Nat) (stack : List σ) (ready : c.Ready) (agrees : c.Agrees spoken script) :
    let talk := Plane.course catalog program limit stack c
    let scripted := Plane.course catalog program limit stack script
    talk.value = scripted.value ∧ talk.log = scripted.log ∧
      talk.state.Agrees spoken scripted.state ∧
      (script.messages.length < limit → scripted.value.result.isSome) := by
  induction limit generalizing stack c script with
  | zero => exact ⟨rfl, rfl, agrees, fun enough => absurd enough (Nat.not_lt_zero _)⟩
  | succ limit ih =>
    cases left : c.left with
    | nil =>
      have read := read_none ready left
      have readScript := Script.read_none agrees.obliging (agrees.left.trans left)
      rw [Plane.course_ended read, Plane.course_ended readScript]
      exact ⟨rfl, rfl, agrees.ended, fun _ => rfl⟩
    | cons message rest =>
      have read := read_some ready left
      have messages := agrees.left.trans left
      have readScript := Script.read_some agrees.obliging messages
      obtain ⟨settled, agreesAfter, kept, value, log⟩ := Plane.route_related respected catalog
        program message stack c.handed _ ready.handed (agrees.handed left)
      cases routed : Plane.route catalog program message stack c.handed with
      | mk outcome next told =>
        cases routedScript : Plane.route catalog program message stack
            { script.recorded .read with messages := rest } with
        | mk outcomeScript nextScript toldScript =>
          rw [routed, routedScript] at agreesAfter value log
          rw [routedScript] at kept
          rw [routed] at settled
          dsimp only at settled agreesAfter kept value log
          subst value log
          obtain ⟨after, result⟩ := outcome
          cases result with
          | error fault =>
            rw [Plane.course_failed read routed, Plane.course_failed readScript routedScript]
            exact ⟨rfl, rfl, agreesAfter, fun _ => rfl⟩
          | ok _ =>
            obtain ⟨value, log, agreesLater, ends⟩ := ih after settled agreesAfter
            rw [Plane.course_routed read routed, Plane.course_routed readScript routedScript]
            dsimp only
            rw [value, log]
            refine ⟨rfl, rfl, agreesLater, fun enough => ends ?_⟩
            rw [messages, List.length_cons] at enough
            rw [kept]
            exact Nat.lt_of_succ_lt_succ enough

end Conversation

end SwitchAgent.Control
