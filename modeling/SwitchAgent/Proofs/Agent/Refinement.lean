import SwitchAgent.Proofs.Agent.Features
import SwitchAgent.Proofs.Session.Agreement
import SwitchAgent.Proofs.Session.Speech

/-!
# The agent over a session and over a script

Every feature does over a session what it does over a script of the same messages, whatever the
switch does with the order of messages and consents.
-/

namespace SwitchAgent.Agent

open Control Device Json Pipeline

variable {P : Type} [Telemetry.Publisher P]

/-- A control plane before its run. -/
def freshPlane {C : Type} (catalog : Catalog) (program : List UInt8) (stack : List (Feature P))
    (channel : C) : Plane (Feature P) C :=
  { channel, catalog, program, stack }

/-- A script of messages on which nothing fails. -/
def obligingScript (deviceId electionId : UInt64) (messages : List Message) : Script :=
  { deviceId, electionId, messages, policy := Refusals.policy {} }

section Opening

variable (deviceId electionId : UInt64) (peer : Peer) (utterances : List Utterance)

theorem opened_agrees :
    (Conversation.opened deviceId electionId peer utterances).Agrees
      (Utterance.messages utterances)
      (obligingScript deviceId electionId (Utterance.messages utterances)) where
  deviceId := rfl
  electionId := rfl
  left := rfl
  written := rfl
  obliging past call := by cases call <;> rfl
  spoken := Utterance.messagesIn_lines utterances
  consents := rfl

/-- The conversation once the agent has announced itself. -/
def begun : Conversation :=
  (Conversation.opened deviceId electionId peer utterances).signalled
    (.arbitration deviceId (.ofLow electionId))

theorem begun_ready : (begun deviceId electionId peer utterances).Ready :=
  (Conversation.opened_ready deviceId electionId peer utterances).signalled _

theorem begun_agrees :
    let messages := Utterance.messages utterances
    (begun deviceId electionId peer utterances).Agrees messages
      ((obligingScript deviceId electionId messages).recorded .announce) :=
  (opened_agrees deviceId electionId peer utterances).signalled
    (Conversation.opened_ready deviceId electionId peer utterances) rfl rfl

theorem announce_opened :
    Channel.announce (Conversation.opened deviceId electionId peer utterances) =
      ⟨.ok (), begun deviceId electionId peer utterances, []⟩ := by
  rw [Conversation.announce_apply]
  exact Conversation.send_ready (Conversation.opened_ready _ _ _ _) _

end Opening

theorem announce_obligingScript (deviceId electionId : UInt64) (messages : List Message) :
    let script := obligingScript deviceId electionId messages
    Channel.announce script = ⟨.ok (), script.recorded .announce, []⟩ :=
  Script.attempt_apply (fun _ call => by cases call <;> rfl) .announce

/-- A session that reads all that the switch says in a conversation announces itself too, and takes
the course of the conversation from there on. -/
theorem course_of_transcript (catalog : Catalog) (program : List UInt8) (stack : List (Feature P))
    (deviceId electionId : UInt64) (peer : Peer) (utterances : List Utterance) (limit : Nat) :
    let start := begun deviceId electionId peer utterances
    let talk := Plane.course catalog program limit stack start
    let session := LineSession.ofIncoming deviceId electionId (Sentence.wire talk.state.transcript)
    ∃ future, Channel.announce session = ⟨.ok (), start.session.facing future, []⟩ ∧
      Plane.course catalog program limit stack (start.session.facing future) =
        ⟨talk.value, talk.state.session.facing talk.state.unsaid, talk.log⟩ := by
  intro start talk session
  let opened := Conversation.opened deviceId electionId peer utterances
  obtain ⟨said, sent, same⟩ := Conversation.course_transcribed Feature.respected catalog program
    limit stack (begun_ready deviceId electionId peer utterances)
  have lines : Line.split (Sentence.wire talk.state.transcript) =
      Sentence.lines (said ++ talk.state.unsaid) := by
    rw [Sentence.split_wire]
    exact congrArg (fun sentences => Sentence.lines (sentences ++ talk.state.unsaid)) sent
  have faces : session = opened.session.facing (said ++ talk.state.unsaid) :=
    congrArg (fun unread => { opened.session with unread }) lines
  refine ⟨said ++ talk.state.unsaid, ?_, same⟩
  rw [faces, LineSession.announce_apply]
  exact Conversation.send_facing
    (Conversation.opened_ready deviceId electionId peer utterances) _ _

/-- The switch sends these messages and one consent for each call that waits for an answer, and
nothing that the agent does over the session tells it from the script. -/
structure Refines (limit : Nat) (incoming : List UInt8) (messages : List Message)
    (session : Plane (Feature P) LineSession) (script : Plane (Feature P) Script) : Prop where
  spoken : messagesIn (Line.split incoming) = messages
  consents : (repliesIn (Line.split incoming)).map Status.code =
    List.replicate (Plane.run limit script).state.channel.answers 0
  value : (Plane.run limit session).value = (Plane.run limit script).value
  returns : (Plane.run limit session).value.isSome
  heard : Plane.heard limit session = Plane.heard limit script
  written : (Plane.run limit session).state.channel.link.written =
    (Plane.run limit script).state.channel.lines
  stack : (Plane.run limit session).state.stack = (Plane.run limit script).state.stack
  phase : (Plane.run limit session).state.phase = (Plane.run limit script).state.phase
  log : (Plane.run limit session).log = (Plane.run limit script).log

theorem run_over_session_as_over_script (catalog : Catalog) (program : List UInt8)
    (stack : List (Feature P)) (deviceId electionId : UInt64) (peer : Peer)
    (utterances : List Utterance) {limit : Nat} (enough : utterances.length < limit) :
    let talk := Plane.run limit <| freshPlane catalog program stack <|
      Conversation.opened deviceId electionId peer utterances
    let incoming := Sentence.wire talk.state.channel.transcript
    Refines limit incoming (Utterance.messages utterances)
      (freshPlane catalog program stack (LineSession.ofIncoming deviceId electionId incoming))
      (freshPlane catalog program stack
        (obligingScript deviceId electionId (Utterance.messages utterances))) := by
  intro talk incoming
  let start := begun deviceId electionId peer utterances
  let script := obligingScript deviceId electionId (Utterance.messages utterances)
  let course := Plane.course catalog program limit stack start
  have talkRun : talk = _ :=
    Plane.run_apply (announce_opened deviceId electionId peer utterances) rfl
  have transcript : incoming = Sentence.wire course.state.transcript := by
    rw [show incoming = Sentence.wire talk.state.channel.transcript from rfl, talkRun]
    rfl
  rw [transcript]
  -- The course of the conversation is that of the script, and that of the session, which reads what
  -- the switch says in it.
  obtain ⟨value, log, agrees, ends⟩ := Conversation.course_agrees Feature.respected catalog
    program limit stack (begun_ready deviceId electionId peer utterances)
    (begun_agrees deviceId electionId peer utterances)
  obtain ⟨future, announced, same⟩ := course_of_transcript catalog program stack deviceId
    electionId peer utterances limit
  let session := freshPlane catalog program stack <|
    LineSession.ofIncoming deviceId electionId (Sentence.wire course.state.transcript)
  have sessionRun : Plane.run limit session = _ := Plane.run_apply announced same
  have sessionHeard : Plane.heard limit session = _ := Plane.heard_apply announced same
  have announcedScript :=
    announce_obligingScript deviceId electionId (Utterance.messages utterances)
  have scriptRun : Plane.run limit (freshPlane catalog program stack script) = _ :=
    Plane.run_apply announcedScript rfl
  have scriptHeard : Plane.heard limit (freshPlane catalog program stack script) = _ :=
    Plane.heard_apply announcedScript rfl
  constructor
  case spoken => exact agrees.messagesIn_wire
  case consents =>
    rw [scriptRun]
    exact agrees.repliesIn_wire
  case value =>
    rw [sessionRun, scriptRun]
    exact congrArg Plane.Course.result value
  case returns =>
    rw [sessionRun]
    dsimp only
    rw [value]
    apply ends
    exact Nat.lt_of_le_of_lt (Nat.le_of_eq (List.length_map _)) enough
  case heard =>
    rw [sessionHeard, scriptHeard, value]
    rfl
  case written =>
    rw [sessionRun, scriptRun]
    exact agrees.written
  case stack =>
    rw [sessionRun, scriptRun]
    exact congrArg Plane.Course.stack value
  case phase =>
    rw [sessionRun, scriptRun]
    dsimp only
    rw [value]
    rfl
  case log =>
    rw [sessionRun, scriptRun]
    dsimp only
    rw [log]
    rfl

/-- Whatever the messages, the switch can say them as long as they do not nest too deep; and however
it says them, and whichever of them overtake its consents, the agent cannot tell the session from a
script. -/
theorem session_refines_script (catalog : Catalog) (program : List UInt8)
    (stack : List (Feature P)) (deviceId electionId : UInt64) (peer : Peer)
    (messages : List Message)
    (shallow : ∀ m ∈ messages, (encode (Response.message m)).nesting ≤ 127) :
    (∃ utterances : List Utterance, Utterance.messages utterances = messages ∧
      utterances.map (·.bytes) = messages.map fun m => Line.ofResponse (.message m)) ∧
    ∀ utterances : List Utterance, Utterance.messages utterances = messages →
      ∀ limit, messages.length < limit →
        let talk := Plane.run limit <| freshPlane catalog program stack <|
          Conversation.opened deviceId electionId peer utterances
        let incoming := Sentence.wire talk.state.channel.transcript
        Refines limit incoming messages
          (freshPlane catalog program stack (LineSession.ofIncoming deviceId electionId incoming))
          (freshPlane catalog program stack (obligingScript deviceId electionId messages)) := by
  constructor
  · exact Utterance.exists_saying messages shallow
  · rintro utterances rfl limit enough
    rw [Utterance.messages, List.length_map] at enough
    exact run_over_session_as_over_script catalog program stack deviceId electionId peer
      utterances enough

/-- An election, and a message that overtakes the consent to the program. -/
def electionThenUnknown : List Message :=
  [.arbitration ⟨1, .ofLow 10, ⟨0, ""⟩⟩, .unknown]

/-- A switch that sends one message before each consent. -/
def hastyPeer : Peer where
  overtaking _ := 1
  consent _ := .ofText ""

theorem message_overtaking_program_scripted :
    (∀ m ∈ electionThenUnknown, (encode (Response.message m)).nesting ≤ 127) ∧
    ∃ incoming, messagesIn (Line.split incoming) = electionThenUnknown ∧
      (repliesIn (Line.split incoming)).map Status.code = [0] ∧
      let stack : List (Feature Telemetry.LogPublisher) := [.fallback {}]
      let session := freshPlane ⟨{}, .null⟩ [] stack (LineSession.ofIncoming 1 10 incoming)
      let script := freshPlane ⟨{}, .null⟩ [] stack (obligingScript 1 10 electionThenUnknown)
      Plane.heard 3 session = Plane.heard 3 script := by
  have shallow : ∀ m ∈ electionThenUnknown, (encode (Response.message m)).nesting ≤ 127 := by
    decide
  obtain ⟨⟨utterances, said, -⟩, same⟩ := session_refines_script ⟨{}, .null⟩ []
    [Feature.fallback (P := Telemetry.LogPublisher) {}] 1 10 hastyPeer electionThenUnknown shallow
  have refines := same utterances said 3 (by decide)
  exact ⟨shallow, _, refines.spoken, refines.consents, refines.heard⟩

end SwitchAgent.Agent
