import SwitchAgent.Control.Channel
import SwitchAgent.Device.Dialogue
import SwitchAgent.Network.Link
import SwitchAgent.Network.Reach
import SwitchAgent.Text.Blank
import SwitchAgent.Text.Quoted

/-!
# Sessions line by line

A channel that speaks JSON, one document a line. Announcements and acknowledgements are sent and
forgotten; a program or a write waits for the next reply, and messages that come before it are
kept for later. A line that nobody can read is passed over.
-/

namespace SwitchAgent.Control

open Device Json Network Pipeline

abbrev Line := List UInt8

/-- A carriage return at the end belongs to the line's end. -/
def Line.withoutReturn (line : Line) : Line :=
  if line.getLast? = some 0x0d then line.dropLast else line

/-- Lines end with a line feed, which may follow a carriage return; what is left at the end is a
line too. -/
def Line.split (bytes : List UInt8) : List Line :=
  let pieces := Text.pieces (· == 0x0a) bytes
  let pieces := if pieces.getLast? = some [] then pieces.dropLast else pieces
  pieces.map Line.withoutReturn

structure LineSession where
  deviceId : UInt64
  electionId : UInt64
  unread : List Line
  /-- Messages that came while a call waited for its reply. -/
  pending : List Message := []
  /-- The end of what the switch sends has been seen. -/
  closed : Bool := false
  link : Link := {}

namespace LineSession

/-- What a line is: nothing, junk, or something to act on. -/
def readLine (line : Line) : Action LineSession (Option (Except Fault Response)) :=
  match Text.Utf8.decode line with
  | none => return some (.error .streamRead)
  | some text =>
    if text.toList.all Text.isBlank then return none
    else match Json.read text with
      | some response => return some (.ok response)
      | none => do
        Action.warn "Ignoring invalid message from switch"
        return none

/-- Nothing but these lines is left to be read. -/
def leave (lines : List Line) : Action LineSession Unit :=
  Action.modify fun session => { session with unread := lines }

def close : Action LineSession Unit :=
  Action.modify fun session => { session with unread := [], closed := true }

def push (message : Message) : Action LineSession Unit :=
  Action.modify fun session => { session with pending := session.pending ++ [message] }

/-- Read until a reply comes. -/
def awaitReply : List Line → Action LineSession (Except Fault Unit)
  | [] => do
    close
    return .error .noReply
  | line :: rest => do
    match ← readLine line with
    | none => awaitReply rest
    | some (.error fault) => do
      leave rest
      return .error fault
    | some (.ok (.message message)) => do
      push message
      awaitReply rest
    | some (.ok (.reply status)) => do
      leave rest
      return if status.isOk then .ok () else .error (.refused status.message status.code.toInt)

def statusText (status : Status) : String :=
  s!"Status \x7b code: {status.code}, message: {Text.quoted status.message} \x7d"

/-- Read until a message comes. No call waits for a reply meanwhile. -/
def awaitMessage : List Line → Action LineSession (Except Fault (Option Message))
  | [] => do
    close
    return .ok none
  | line :: rest => do
    match ← readLine line with
    | none => awaitMessage rest
    | some (.error fault) => do
      leave rest
      return .error fault
    | some (.ok (.message message)) => do
      leave rest
      return .ok (some message)
    | some (.ok (.reply status)) => do
      Action.warn s!"Unexpected reply without outstanding request: {statusText status}"
      awaitMessage rest

/-- A request as it is sent. -/
def encodeRequest (request : Request) : Line :=
  Text.Utf8.encode (Json.write request) ++ [0x0a]

def send (request : Request) : Action LineSession (Except Fault Unit) := do
  let sent ← (Link.send (encodeRequest request)).within LineSession.link
    fun session link => { session with link }
  return if sent then .ok () else .error .streamWrite

/-- Send a request and wait for its reply. -/
def call (request : Request) : Action LineSession (Except Fault Unit) := do
  match ← send request with
  | .error fault => return .error fault
  | .ok _ => do
    awaitReply (← Action.get).unread

def nextMessage : Action LineSession (Except Fault (Option Message)) := do
  let session ← Action.get
  match session.pending with
  | message :: pending => do
    Action.set { session with pending }
    return .ok (some message)
  | [] => if session.closed then return .ok none else awaitMessage session.unread

instance : Channel LineSession where
  deviceId := LineSession.deviceId
  electionId := LineSession.electionId
  announce := do
    let session ← Action.get
    send (.arbitration session.deviceId (.ofLow session.electionId))
  configure catalog program := do
    let session ← Action.get
    let result ← call <|
      .setPipeline session.deviceId (.ofLow session.electionId) catalog.document program
    return result.mapError .pipelineFailed
  write request := do
    let result ← call (.write request)
    return result.mapError .writeFailed
  read := nextMessage
  acknowledge digestId listId := send (.acknowledge digestId listId)

def ofIncoming (deviceId electionId : UInt64) (incoming : List UInt8) : LineSession :=
  { deviceId, electionId, unread := Line.split incoming }

/-- How many messages the session may still hand out. -/
def horizon (session : LineSession) : Nat :=
  session.pending.length + session.unread.length

/-- Connect to the switch. -/
def connect {σ : Type} (network : Network) (address : String) (deviceId electionId : UInt64) :
    Action σ (Except Fault LineSession) := do
  Action.debug s!"Connecting to {address}"
  match Endpoint.ofSocketAddress address with
  | .error cause => return .error (.unreachable address cause.message)
  | .ok endpoint =>
    match network endpoint with
    | .silent => return .error (.timedOut address)
    | .refused reason => return .error (.unreachable address reason)
    | .connected incoming refuses => do
      Action.info s!"Connected to switch at {address}"
      return .ok { ofIncoming deviceId electionId incoming with link := { refuses } }

end LineSession

end SwitchAgent.Control
