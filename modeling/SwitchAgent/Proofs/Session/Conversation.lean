import SwitchAgent.Proofs.Control.Correspondence
import SwitchAgent.Proofs.Session.Operation

/-!
# Conversations

A session and the switch at its other end. The switch sends its messages in order, answers each
call with one consent once it has the request, and closes when it has nothing more to say and is
waited for. Only the order of its lines can be seen, so how it talks is said by how many messages
overtake each consent.
-/

namespace SwitchAgent.Control

open Device Network Pipeline

/-- A line as a switch sends it, the line feed left out. -/
structure Sentence where
  bytes : List UInt8
  single : 0x0a ∉ bytes

namespace Sentence

def line (sentence : Sentence) : Line :=
  Line.withoutReturn sentence.bytes

/-- What goes over the wire. -/
def wire (sentences : List Sentence) : List UInt8 :=
  sentences.flatMap fun sentence => sentence.bytes ++ [0x0a]

def lines (sentences : List Sentence) : List Line :=
  sentences.map line

theorem lines_append (before after : List Sentence) :
    lines (before ++ after) = lines before ++ lines after :=
  List.map_append

theorem split_wire (sentences : List Sentence) : Line.split (wire sentences) = lines sentences := by
  induction sentences with
  | nil => rfl
  | cons sentence rest ih =>
    have front : wire (sentence :: rest) = sentence.bytes ++ 0x0a :: wire rest := by
      simp [wire]
    rw [front, Line.split_cons_line _ _ sentence.single, ih]
    rfl

end Sentence

structure Utterance extends Sentence where
  message : Message
  meaning : toSentence.line.content = .message message

structure Consent extends Sentence where
  text : String
  meaning : toSentence.line.content = .reply ⟨0, text⟩

/-- How a switch answers a call, given all that it has received so far. -/
structure Peer where
  /-- How many messages it sends before its consent. -/
  overtaking : List Line → Nat
  consent : List Line → Consent

structure Conversation where
  session : LineSession
  peer : Peer
  /-- What the switch still has to say. -/
  unsent : List Utterance
  sent : List Sentence := []

namespace Utterance

def messages (utterances : List Utterance) : List Message :=
  utterances.map message

theorem messages_append (before after : List Utterance) :
    messages (before ++ after) = messages before ++ messages after :=
  List.map_append

end Utterance

namespace Conversation

variable {α : Type}

def opened (deviceId electionId : UInt64) (peer : Peer) (utterances : List Utterance) :
    Conversation where
  session := { deviceId, electionId, unread := [] }
  peer := peer
  unsent := utterances

def onSession (action : Action LineSession α) : Action Conversation α :=
  action.within Conversation.session fun c session => { c with session }

/-- Lines that the switch sends can be read from now on. -/
def hear (sentences : List Sentence) : Action Conversation Unit :=
  Action.modify fun c =>
    { c with
      session := { c.session with unread := c.session.unread ++ Sentence.lines sentences }
      sent := c.sent ++ sentences }

/-- The switch sends the next messages, as far as it has any. -/
def utter (count : Nat) : Action Conversation Unit := do
  let c ← Action.get
  Action.modify fun c => { c with unsent := c.unsent.drop count }
  hear ((c.unsent.take count).map Utterance.toSentence)

/-- The switch answers a call. -/
def answer : Action Conversation Unit := do
  let c ← Action.get
  let received := c.session.link.written
  utter (c.peer.overtaking received)
  hear [(c.peer.consent received).toSentence]

/-- The switch answers a request once it has it. -/
def call (request : Request) : Action Conversation (Except Fault Unit) := do
  match ← onSession (LineSession.send request) with
  | .error fault => return .error fault
  | .ok _ => do
    answer
    onSession do LineSession.awaitReply (← Action.get).unread

/-- The switch speaks up if there is nothing left to be read; it has closed if it is silent. -/
def nextMessage : Action Conversation (Except Fault (Option Message)) := do
  let session := (← Action.get).session
  if session.pending.isEmpty && session.unread.isEmpty then utter 1
  onSession LineSession.nextMessage

instance : Channel Conversation where
  deviceId c := c.session.deviceId
  electionId c := c.session.electionId
  announce := onSession Channel.announce
  configure catalog program := do
    let session := (← Action.get).session
    let result ← call <|
      .setPipeline session.deviceId (.ofLow session.electionId) catalog.document program
    return result.mapError .pipelineFailed
  write request := do
    let result ← call (.write request)
    return result.mapError .writeFailed
  read := nextMessage
  acknowledge digestId listId := onSession (Channel.acknowledge digestId listId)

/-- All that the switch sends in a conversation: what it has not said yet it says at the end. -/
def transcript (c : Conversation) : List Sentence :=
  c.sent ++ c.unsent.map Utterance.toSentence

/-- The messages still to be handed out. -/
def left (c : Conversation) : List Message :=
  c.session.pending ++ Utterance.messages c.unsent

/-- Nothing is left unread, the stream is open, and every write goes out. -/
structure Ready (c : Conversation) : Prop where
  unread : c.session.unread = []
  opened : c.session.closed = false
  accepts (n : Nat) : c.session.link.refuses n = false

theorem opened_ready (deviceId electionId : UInt64) (peer : Peer) (utterances : List Utterance) :
    (Conversation.opened deviceId electionId peer utterances).Ready where
  unread := rfl
  opened := rfl
  accepts _ := rfl

end Conversation

namespace LineSession

/-- The session if this is all it will read. -/
def facing (session : LineSession) (sentences : List Sentence) : LineSession :=
  { session with unread := Sentence.lines sentences }

/-- A call keeps the messages that overtake its consent, and no later one. -/
theorem awaitReply_consent (utterances : List Utterance) (consent : Consent)
    (session : LineSession) (rest : List Line) :
    awaitReply (Sentence.lines (utterances.map Utterance.toSentence) ++
        consent.toSentence.line :: rest) session =
      ⟨.ok (),
        { session with
          pending := session.pending ++ Utterance.messages utterances
          unread := rest }, []⟩ := by
  induction utterances generalizing session with
  | nil =>
    have agreed : verdict ⟨0, consent.text⟩ = .ok () := rfl
    rw [List.map_nil, Sentence.lines, List.map_nil, List.nil_append,
      awaitReply_reply session rest consent.meaning, agreed]
    simp [Utterance.messages]
  | cons utterance utterances ih =>
    rw [List.map_cons, Sentence.lines, List.map_cons, List.cons_append,
      awaitReply_message session _ utterance.meaning]
    have later := ih { session with pending := session.pending ++ [utterance.message] }
    rw [Sentence.lines] at later
    rw [later]
    simp [Utterance.messages]

end LineSession

end SwitchAgent.Control
