import SwitchAgent.Proofs.Session.Conversation

/-!
# Transcripts

A session that reads all that the switch says in a conversation does what the conversation did:
what was said to one call is not touched by another, so it makes no difference that it is there
from the start.
-/

namespace SwitchAgent.Control

open Device Network Pipeline

theorem LineSession.announce_apply (session : LineSession) :
    Channel.announce session =
      send (.arbitration session.deviceId (.ofLow session.electionId)) session := by
  simp [Channel.announce]

namespace Conversation

/-- The messages that overtake the consent to a request. -/
def overtakers (c : Conversation) (request : Request) : List Utterance :=
  c.unsent.take <|
    c.peer.overtaking (c.session.link.after (LineSession.encodeRequest request)).written

def consent (c : Conversation) (request : Request) : Consent :=
  c.peer.consent (c.session.link.after (LineSession.encodeRequest request)).written

/-- All that the switch says to a request. -/
def said (c : Conversation) (request : Request) : List Sentence :=
  (c.overtakers request).map Utterance.toSentence ++ [(c.consent request).toSentence]

/-- The conversation once a request was answered. -/
def answered (c : Conversation) (request : Request) : Conversation :=
  { c with
    session := { c.session with
      pending := c.session.pending ++ Utterance.messages (c.overtakers request)
      link := c.session.link.after (LineSession.encodeRequest request) }
    unsent := c.unsent.drop
      (c.peer.overtaking (c.session.link.after (LineSession.encodeRequest request)).written)
    sent := c.sent ++ c.said request }

variable {c : Conversation}

theorem Ready.accepted (ready : c.Ready) : c.session.link.accepts = true := by
  simp [Link.accepts, ready.accepts]

theorem Ready.answered (ready : c.Ready) (request : Request) : (c.answered request).Ready where
  unread := ready.unread
  opened := ready.opened
  accepts := ready.accepts

theorem call_ready (ready : c.Ready) (request : Request) :
    call request c = ⟨.ok (), c.answered request, []⟩ := by
  have sent : LineSession.send request c.session =
      ⟨.ok (),
        { c.session with link := c.session.link.after (LineSession.encodeRequest request) },
        []⟩ := by
    rw [LineSession.send_apply, ready.accepted]
    rfl
  have answering : (answer { c with
      session := { c.session with
        link := c.session.link.after (LineSession.encodeRequest request) } }) =
      ⟨(), { c.answered request with
        session := { c.session with
          link := c.session.link.after (LineSession.encodeRequest request)
          unread := Sentence.lines (c.said request) } }, []⟩ := by
    simp [answer, utter, hear, answered, said, overtakers, consent, ready.unread, Sentence.lines]
  have heard := LineSession.awaitReply_consent (c.overtakers request) (c.consent request)
    { c.session with
      link := c.session.link.after (LineSession.encodeRequest request)
      unread := Sentence.lines (c.said request) } []
  have lines : Sentence.lines (c.said request) =
      Sentence.lines ((c.overtakers request).map Utterance.toSentence) ++
        [(c.consent request).toSentence.line] := by
    simp [Sentence.lines, said]
  rw [← lines] at heard
  simp only [call, onSession, Action.bind_apply, Action.within_apply, sent, answering,
    Action.get_apply, heard]
  simp [answered, ready.unread]

/-- The session does the same if the answer is there already, and leaves what comes after it. -/
theorem call_facing (ready : c.Ready) (request : Request) (future : List Sentence) :
    LineSession.call request (c.session.facing (c.said request ++ future)) =
      ⟨.ok (), (c.answered request).session.facing future, []⟩ := by
  have accepted : (c.session.facing (c.said request ++ future)).link.accepts = true :=
    ready.accepted
  rw [LineSession.call_accepted request accepted]
  have lines : (c.session.facing (c.said request ++ future)).unread =
      Sentence.lines ((c.overtakers request).map Utterance.toSentence) ++
        (c.consent request).toSentence.line :: Sentence.lines future := by
    simp [LineSession.facing, Sentence.lines, said]
  rw [lines, LineSession.awaitReply_consent]
  rfl

/-- The conversation once something was sent that nobody answers. -/
def signalled (c : Conversation) (request : Request) : Conversation :=
  { c with
    session := { c.session with
      link := c.session.link.after (LineSession.encodeRequest request) } }

theorem Ready.signalled (ready : c.Ready) (request : Request) : (c.signalled request).Ready where
  unread := ready.unread
  opened := ready.opened
  accepts := ready.accepts

theorem send_ready (ready : c.Ready) (request : Request) :
    onSession (LineSession.send request) c = ⟨.ok (), c.signalled request, []⟩ := by
  simp only [onSession, Action.within_apply, LineSession.send_apply, ready.accepted]
  rfl

theorem send_facing (ready : c.Ready) (request : Request) (future : List Sentence) :
    LineSession.send request (c.session.facing future) =
      ⟨.ok (), (c.signalled request).session.facing future, []⟩ := by
  have accepted : (c.session.facing future).link.accepts = true := ready.accepted
  rw [LineSession.send_apply, accepted]
  rfl

theorem announce_apply (c : Conversation) :
    Channel.announce c = onSession (LineSession.send
      (.arbitration c.session.deviceId (.ofLow c.session.electionId))) c := by
  simp [Channel.announce, onSession]

/-- Wherever the session stands, what the switch says meanwhile is all that it takes. -/
def Transcribes {α : Type} (talk : Action Conversation α) (plain : Action LineSession α) : Prop :=
  ∀ c : Conversation, c.Ready →
    (talk c).state.Ready ∧ ∃ said, (talk c).state.sent = c.sent ++ said ∧
      ∀ future, plain (c.session.facing (said ++ future)) =
        ⟨(talk c).value, (talk c).state.session.facing future, (talk c).log⟩

namespace Transcribes

variable {α β : Type}

theorem bind {talk : Action Conversation α} {plain : Action LineSession α}
    {next : α → Action Conversation β} {following : α → Action LineSession β}
    (first : Transcribes talk plain) (rest : ∀ a, Transcribes (next a) (following a)) :
    Transcribes (talk >>= next) (plain >>= following) := by
  intro c ready
  obtain ⟨ready, said, sent, same⟩ := first c ready
  obtain ⟨ready, later, sentLater, sameLater⟩ := rest (talk c).value (talk c).state ready
  refine ⟨ready, said ++ later, ?_, ?_⟩
  · rw [Action.bind_apply, sentLater, sent, List.append_assoc]
  · intro future
    rw [Action.bind_apply, List.append_assoc, same, sameLater, Action.bind_apply]

/-- Nothing is said where the session is left alone. -/
theorem silent {talk : Action Conversation α} {plain : Action LineSession α}
    (alone : ∀ c, (talk c).state = c)
    (same : ∀ c session, plain session = ⟨(talk c).value, session, (talk c).log⟩) :
    Transcribes talk plain := by
  intro c ready
  rw [alone]
  exact ⟨ready, [], (List.append_nil _).symm, fun future => same c _⟩

theorem call (request : Request) :
    Transcribes (Conversation.call request) (LineSession.call request) := by
  intro c ready
  rw [call_ready ready]
  exact ⟨ready.answered request, c.said request, rfl, call_facing ready request⟩

theorem send (request : Request) :
    Transcribes (onSession (LineSession.send request)) (LineSession.send request) := by
  intro c ready
  rw [send_ready ready]
  exact ⟨ready.signalled request, [], (List.append_nil _).symm, send_facing ready request⟩

/-- Device and election are the same on both sides. -/
theorem knowing {talk : UInt64 → UInt64 → Action Conversation α}
    {plain : UInt64 → UInt64 → Action LineSession α}
    (h : ∀ deviceId electionId,
      Transcribes (talk deviceId electionId) (plain deviceId electionId)) :
    Transcribes (fun c => talk c.session.deviceId c.session.electionId c)
      (fun session => plain session.deviceId session.electionId session) :=
  fun c ready => h c.session.deviceId c.session.electionId c ready

theorem returning {talk : Action Conversation α} {plain : Action LineSession α} (f : α → β)
    (h : Transcribes talk plain) :
    Transcribes (talk >>= fun a => pure (f a)) (plain >>= fun a => pure (f a)) :=
  h.bind fun _ => silent (fun _ => rfl) fun _ _ => rfl

theorem configure (catalog : Catalog) (program : List UInt8) :
    Transcribes (Channel.configure catalog program) (Channel.configure catalog program) := by
  have asked := knowing fun deviceId electionId =>
    (call (.setPipeline deviceId (.ofLow electionId) catalog.document program)).returning
      fun result => result.mapError Fault.pipelineFailed
  exact asked

theorem insertAll (entities : List Entity) :
    Transcribes (Channel.insertAll entities) (Channel.insertAll entities) := by
  have asked := knowing fun deviceId electionId =>
    (call (.write ((WriteRequest.empty deviceId electionId).insertAll entities))).returning
      fun result => result.mapError Fault.writeFailed
  exact asked

end Transcribes

/-- Whatever controllers do in a conversation, a session does that reads its transcript. -/
def transcription : Correspondence Conversation LineSession where
  Rel := Transcribes
  pure _ := Transcribes.silent (fun _ => rfl) fun _ _ => rfl
  bind := Transcribes.bind
  aside _ _ := Transcribes.silent (fun _ => rfl) fun _ _ => rfl
  log _ _ := Transcribes.silent (fun _ => rfl) fun _ _ => rfl
  configure := Transcribes.configure
  insertAll := Transcribes.insertAll
  acknowledge digestId listId := Transcribes.send (.acknowledge digestId listId)

/-- The conversation after the next message was handed out, from the queue or fresh. -/
def handed (c : Conversation) : Conversation :=
  match c.session.pending, c.unsent with
  | _ :: rest, _ => { c with session := { c.session with pending := rest } }
  | [], utterance :: rest => { c with unsent := rest, sent := c.sent ++ [utterance.toSentence] }
  | [], [] => c

/-- What the switch says if it is waited for. -/
def spokenUp (c : Conversation) : List Sentence :=
  if c.session.pending.isEmpty then (c.unsent.take 1).map Utterance.toSentence else []

theorem Ready.handed (ready : c.Ready) : c.handed.Ready := by
  rw [Conversation.handed]
  split <;> exact ⟨ready.unread, ready.opened, ready.accepts⟩

theorem handed_sent (c : Conversation) : c.handed.sent = c.sent ++ c.spokenUp := by
  rw [handed, spokenUp]
  split <;> simp [*]

theorem handed_peer (c : Conversation) : c.handed.peer = c.peer := by
  rw [handed]
  split <;> rfl

/-- The next message waits in the queue, or else it is the next that the switch says. -/
theorem next_cases {message : Message} {rest : List Message} (left : c.left = message :: rest) :
    (∃ queued, c.session.pending = message :: queued ∧
      queued ++ Utterance.messages c.unsent = rest) ∨
    (c.session.pending = [] ∧ ∃ utterance utterances, c.unsent = utterance :: utterances ∧
      utterance.message = message ∧ Utterance.messages utterances = rest) := by
  rw [Conversation.left] at left
  cases pending : c.session.pending with
  | cons first queued =>
    rw [pending] at left
    obtain ⟨rfl, same⟩ := List.cons.inj left
    exact Or.inl ⟨queued, rfl, same⟩
  | nil =>
    rw [pending, List.nil_append] at left
    cases unsent : c.unsent with
    | nil =>
      rw [unsent] at left
      cases left
    | cons utterance utterances =>
      rw [unsent] at left
      obtain ⟨same, rest⟩ := List.cons.inj left
      exact Or.inr ⟨rfl, utterance, utterances, rfl, same, rest⟩

theorem handed_left {message : Message} {rest : List Message} (left : c.left = message :: rest) :
    c.handed.left = rest := by
  rcases next_cases left with ⟨queued, pending, same⟩ | ⟨pending, utterance, later, unsent, -, same⟩
  · simpa [handed, pending, Conversation.left] using same
  · simpa [handed, pending, unsent, Conversation.left] using same

theorem Ready.facing_nil (ready : c.Ready) : c.session.facing [] = c.session := by
  have same : { c.session with unread := c.session.unread } = c.session := rfl
  rw [ready.unread] at same
  exact same

/-- A reading is one over what the switch says meanwhile. -/
theorem nextMessage_ready (ready : c.Ready) :
    let reading := LineSession.nextMessage (c.session.facing c.spokenUp)
    nextMessage c =
      ⟨reading.value,
        { c with session := reading.state, unsent := c.handed.unsent, sent := c.handed.sent },
        reading.log⟩ := by
  intro reading
  cases pending : c.session.pending with
  | cons first queued =>
    have nothing : c.spokenUp = [] := by simp [spokenUp, pending]
    have same : reading = LineSession.nextMessage c.session := by
      simp only [reading, nothing, ready.facing_nil]
    simp [nextMessage, onSession, handed, pending, same]
  | nil =>
    cases unsent : c.unsent with
    | nil =>
      have nothing : c.spokenUp = [] := by simp [spokenUp, unsent]
      simp [nextMessage, onSession, handed, pending, unsent, ready.unread, utter, hear,
        reading, nothing, LineSession.facing]
    | cons utterance utterances =>
      have said : c.spokenUp = [utterance.toSentence] := by simp [spokenUp, pending, unsent]
      simp [nextMessage, onSession, handed, pending, unsent, ready.unread, utter, hear,
        reading, said, LineSession.facing]

theorem read_some_facing (ready : c.Ready) {message : Message} {rest : List Message}
    (left : c.left = message :: rest) (future : List Sentence) :
    Channel.read (c.session.facing (c.spokenUp ++ future)) =
      ⟨.ok (some message), c.handed.session.facing future, []⟩ := by
  change LineSession.nextMessage _ = _
  rcases next_cases left with ⟨queued, pending, -⟩ | ⟨pending, utterance, later, unsent, rfl, -⟩
  · have nothing : c.spokenUp = [] := by simp [spokenUp, pending]
    have same : (c.session.facing (c.spokenUp ++ future)).pending = message :: queued := pending
    rw [LineSession.nextMessage_pending same, nothing]
    simp [handed, pending, LineSession.facing]
  · have said : c.spokenUp = [utterance.toSentence] := by simp [spokenUp, pending, unsent]
    have none : (c.session.facing (c.spokenUp ++ future)).pending = [] := pending
    have reads := LineSession.awaitMessage_message (c.session.facing (c.spokenUp ++ future))
      (Sentence.lines future) utterance.meaning
    rw [LineSession.nextMessage_open none ready.opened, said]
    rw [said] at reads
    refine reads.trans ?_
    simp [handed, pending, unsent, LineSession.facing]

theorem read_some (ready : c.Ready) {message : Message} {rest : List Message}
    (left : c.left = message :: rest) :
    Channel.read c = ⟨.ok (some message), c.handed, []⟩ := by
  have facing := read_some_facing ready left []
  rw [List.append_nil, ready.handed.facing_nil] at facing
  have reads : LineSession.nextMessage (c.session.facing c.spokenUp) =
      ⟨.ok (some message), c.handed.session, []⟩ := facing
  refine (nextMessage_ready ready).trans ?_
  rw [reads, ← handed_peer]

/-- The conversation after the switch has closed. -/
def ended (c : Conversation) : Conversation :=
  { c with session := { c.session with closed := true } }

theorem left_eq_nil (left : c.left = []) : c.session.pending = [] ∧ c.unsent = [] := by
  obtain ⟨pending, unsent⟩ := List.append_eq_nil_iff.mp left
  exact ⟨pending, List.map_eq_nil_iff.mp unsent⟩

theorem read_none_facing (ready : c.Ready) (left : c.left = []) :
    Channel.read (c.session.facing []) = ⟨.ok none, c.ended.session.facing [], []⟩ := by
  have none : (c.session.facing []).pending = [] := (left_eq_nil left).1
  change LineSession.nextMessage _ = _
  rw [LineSession.nextMessage_open none ready.opened]
  rfl

theorem read_none (ready : c.Ready) (left : c.left = []) :
    Channel.read c = ⟨.ok none, c.ended, []⟩ := by
  obtain ⟨pending, unsent⟩ := left_eq_nil left
  have facing := read_none_facing ready left
  have nothing : c.spokenUp = [] := by simp [spokenUp, unsent]
  have same : c.handed = c := by simp [handed, pending, unsent]
  have reads : LineSession.nextMessage (c.session.facing c.spokenUp) =
      ⟨.ok none, c.ended.session.facing [], []⟩ := by
    rw [nothing]
    exact facing
  refine (nextMessage_ready ready).trans ?_
  rw [reads, same]
  simp [LineSession.facing, ended, Sentence.lines, ready.unread]

/-- What is left unsaid, as it would be sent. -/
def unsaid (c : Conversation) : List Sentence :=
  c.unsent.map Utterance.toSentence

/-- A session that reads what the switch says from here on follows the course of the
conversation, and leaves unread what the switch had not said when the conversation ended. -/
theorem course_transcribed {σ : Type} [Controller σ Conversation] [Controller σ LineSession]
    (respected : transcription.Respected σ) (catalog : Catalog) (program : List UInt8)
    (limit : Nat) (stack : List σ) (ready : c.Ready) :
    let talk := Plane.course catalog program limit stack c
    ∃ said, talk.state.sent = c.sent ++ said ∧
      Plane.course catalog program limit stack
          (c.session.facing (said ++ talk.state.unsaid)) =
        ⟨talk.value, talk.state.session.facing talk.state.unsaid, talk.log⟩ := by
  induction limit generalizing stack c with
  | zero => exact ⟨[], (List.append_nil _).symm, rfl⟩
  | succ limit ih =>
    cases left : c.left with
    | nil =>
      refine ⟨[], ?_, ?_⟩
      · rw [Plane.course_ended (read_none ready left)]
        exact (List.append_nil _).symm
      · have nothing : c.ended.unsaid = [] := by
          rw [unsaid, ended, (left_eq_nil left).2, List.map_nil]
        rw [Plane.course_ended (read_none ready left), List.nil_append]
        dsimp only
        rw [nothing, Plane.course_ended (read_none_facing ready left)]
    | cons message rest =>
      have read := read_some ready left
      have readFacing := read_some_facing ready left
      obtain ⟨settled, said, sent, same⟩ := Plane.route_related respected catalog program message
        stack c.handed ready.handed
      rw [handed_sent, List.append_assoc] at sent
      cases routed : Plane.route catalog program message stack c.handed with
      | mk value next log =>
        obtain ⟨after, result⟩ := value
        rw [routed] at settled sent same
        dsimp only at settled sent same
        cases result with
        | error fault =>
          rw [Plane.course_failed read routed]
          refine ⟨c.spokenUp ++ said, sent, ?_⟩
          rw [List.append_assoc]
          exact Plane.course_failed (readFacing _) (same _)
        | ok _ =>
          obtain ⟨later, sentLater, sameLater⟩ := ih after settled
          rw [Plane.course_routed read routed]
          refine ⟨c.spokenUp ++ (said ++ later), ?_, ?_⟩
          · rw [sentLater, sent, List.append_assoc, List.append_assoc]
          · dsimp only
            rw [List.append_assoc, List.append_assoc,
              Plane.course_routed (readFacing _) (same _), sameLater]

end Conversation

end SwitchAgent.Control
