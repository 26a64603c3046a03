import SwitchAgent.Proofs.Session.Content

/-!
# Waiting on a session

What waiting for a reply or for a message does, line by line: a message met by a call goes to
the queue, a reply met by a reader is dropped, and nothing after the line waited for is taken.
-/

namespace SwitchAgent.Network.Link

/-- Whether the next write goes out. -/
def accepts (link : Link) : Bool :=
  !link.refuses link.count

def after (link : Link) (bytes : List UInt8) : Link :=
  { link with
    written := if link.accepts then link.written ++ [bytes] else link.written
    count := link.count + 1 }

theorem send_apply (bytes : List UInt8) (link : Link) :
    send bytes link = ⟨link.accepts, link.after bytes, []⟩ := by
  cases h : link.refuses link.count <;> simp [send, after, accepts, h]

end SwitchAgent.Network.Link

namespace SwitchAgent.Control

open Device Network Pipeline

namespace LineSession

/-- What a call comes to by its reply. -/
def verdict (status : Status) : Except Fault Unit :=
  if status.isOk then .ok () else .error (.refused status.message status.code.toInt)

theorem send_apply (request : Request) (session : LineSession) :
    send request session =
      ⟨if session.link.accepts then .ok () else .error .streamWrite,
        { session with link := session.link.after (encodeRequest request) }, []⟩ := by
  simp [send, Link.send_apply]

section AwaitReply

variable (session : LineSession)

@[simp] theorem awaitReply_nil :
    awaitReply [] session = ⟨.error .noReply, { session with unread := [], closed := true }, []⟩ :=
  rfl

variable {line : Line} (rest : List Line)

theorem awaitReply_broken (h : line.content = .broken) :
    awaitReply (line :: rest) session =
      ⟨.error .streamRead, { session with unread := rest }, []⟩ := by
  simp [awaitReply, readLine_apply, h, Content.reading, Content.log, leave]

/-- A line that says nothing leaves no more than a log record. -/
theorem awaitReply_idle (h : line.content = .blank ∨ line.content = .junk) :
    awaitReply (line :: rest) session =
      { awaitReply rest session with
        log := line.content.log ++ (awaitReply rest session).log } := by
  rcases h with h | h <;> simp [awaitReply, readLine_apply, h, Content.reading]

theorem awaitReply_message {m : Message} (h : line.content = .message m) :
    awaitReply (line :: rest) session =
      awaitReply rest { session with pending := session.pending ++ [m] } := by
  simp [awaitReply, readLine_apply, h, Content.reading, Content.log, push]

theorem awaitReply_reply {status : Status} (h : line.content = .reply status) :
    awaitReply (line :: rest) session = ⟨verdict status, { session with unread := rest }, []⟩ := by
  simp [awaitReply, readLine_apply, h, Content.reading, Content.log, leave, verdict]

end AwaitReply

section AwaitMessage

variable (session : LineSession)

@[simp] theorem awaitMessage_nil :
    awaitMessage [] session = ⟨.ok none, { session with unread := [], closed := true }, []⟩ :=
  rfl

variable {line : Line} (rest : List Line)

theorem awaitMessage_broken (h : line.content = .broken) :
    awaitMessage (line :: rest) session =
      ⟨.error .streamRead, { session with unread := rest }, []⟩ := by
  simp [awaitMessage, readLine_apply, h, Content.reading, Content.log, leave]

theorem awaitMessage_idle (h : line.content = .blank ∨ line.content = .junk) :
    awaitMessage (line :: rest) session =
      { awaitMessage rest session with
        log := line.content.log ++ (awaitMessage rest session).log } := by
  rcases h with h | h <;> simp [awaitMessage, readLine_apply, h, Content.reading]

theorem awaitMessage_message {m : Message} (h : line.content = .message m) :
    awaitMessage (line :: rest) session = ⟨.ok (some m), { session with unread := rest }, []⟩ := by
  simp [awaitMessage, readLine_apply, h, Content.reading, Content.log, leave]

/-- What a reader makes of a reply that no call waits for. -/
def unexpected (status : Status) : Log.Record :=
  ⟨.warn, s!"Unexpected reply without outstanding request: {statusText status}"⟩

theorem awaitMessage_reply {status : Status} (h : line.content = .reply status) :
    awaitMessage (line :: rest) session =
      { awaitMessage rest session with
        log := unexpected status :: (awaitMessage rest session).log } := by
  simp [awaitMessage, readLine_apply, h, Content.reading, Content.log, Action.warn, unexpected]

end AwaitMessage

end LineSession

end SwitchAgent.Control
