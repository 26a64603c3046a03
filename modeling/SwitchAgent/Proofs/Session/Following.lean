import SwitchAgent.Proofs.Control.Occasions
import SwitchAgent.Proofs.Control.Rounds
import SwitchAgent.Proofs.Session.Delivery
import SwitchAgent.Proofs.Session.Sending

/-!
# Following a session

Whatever controllers do between two readings, the messages of a legible session wait for the next
one. So a run reads them in the order in which the switch sent them, and its stream ends well. What
a run sends comes after its announcement.
-/

namespace SwitchAgent.Control

open SwitchAgent.Action Device Json Network

namespace Plane

variable {σ C : Type} [Channel C] [Controller σ C] {property : C → Prop}
variable (kept : ∀ operation channel, property channel →
  property (Operation.perform operation channel).state)
variable (same : (keeping kept).Respected σ)
include same

/-- What every operation keeps is kept by following a stream. -/
theorem follow_keeps (limit : Nat) {plane : Plane σ C} (h : property plane.channel) :
    property (follow limit plane).state.channel := by
  induction limit generalizing plane with
  | zero => exact h
  | succ limit ih =>
    have performed := kept .read plane.channel h
    have after : property (Channel.read plane.channel).state := by
      simpa [Operation.perform] using performed
    cases read : (Channel.read plane.channel).value with
    | error fault =>
      rw [(follow_failed read limit).2.2]
      exact after
    | ok message =>
      cases message with
      | none =>
        rw [(follow_closed read limit).2.2]
        exact after
      | some message =>
        have served : property (serve message plane).state.channel := by
          rw [serve_state]
          exact dispatch_keeps kept same message after
        cases result : (serve message plane).value with
        | error fault =>
          rw [(follow_stopped read result limit).2.2]
          exact served
        | ok _ =>
          rw [(follow_served read result limit).2.2]
          exact ih served

/-- What holds of an announced channel and is kept by every operation holds at the end of a run. -/
theorem run_keeps {plane : Plane σ C} (accepted : (Channel.announce plane.channel).value = .ok ())
    (h : property (Channel.announce plane.channel).state) (limit : Nat) :
    property (run limit plane).state.channel := by
  have follows : property (follow limit plane.announced).state.channel :=
    follow_keeps kept same limit h
  rw [(run_begun accepted limit).2.2]
  split
  · exact follows
  · exact follows

end Plane

namespace LineSession

theorem perform_waiting {operation : Operation} (noReading : operation ≠ .read)
    {session : LineSession} (legible : session.Legible) :
    (operation.perform session).state.Legible ∧
    (operation.perform session).state.undelivered = session.undelivered := by
  have kept := operation.perform_undelivered session
  have silent : (operation.perform session).value.received = [] := by
    cases operation with
    | read => exact absurd rfl noReading
    | _ => rfl
  rw [silent, List.nil_append] at kept
  exact ⟨operation.perform_legible legible, kept⟩

/-- Actions that leave a session legible, with the same messages waiting. -/
def waiting : Correspondence LineSession LineSession where
  Rel action _ := ∀ session : LineSession, session.Legible →
    (action session).state.Legible ∧ (action session).state.undelivered = session.undelivered
  pure _ _ legible := ⟨legible, rfl⟩
  bind first next session legible := by
    obtain ⟨still, same⟩ := first session legible
    obtain ⟨stillThen, sameThen⟩ := next _ _ still
    exact ⟨stillThen, sameThen.trans same⟩
  aside _ _ _ legible := ⟨legible, rfl⟩
  log _ _ _ legible := ⟨legible, rfl⟩
  configure catalog program session legible := by
    have noReading : Operation.configure catalog program ≠ .read := nofun
    simpa [Operation.perform] using perform_waiting noReading legible
  insertAll entities session legible := by
    have noReading : Operation.write ((Channel.emptyRequest session).insertAll entities) ≠ .read :=
      nofun
    exact perform_waiting noReading legible
  acknowledge digestId listId session legible := by
    have noReading : Operation.acknowledge digestId listId ≠ .read := nofun
    exact perform_waiting noReading legible

variable {σ : Type} [Controller σ LineSession]

theorem serve_waiting (same : waiting.Respected σ) (message : Message)
    {plane : Plane σ LineSession} (legible : plane.channel.Legible) :
    (Plane.serve message plane).state.channel.Legible ∧
    (Plane.serve message plane).state.channel.undelivered = plane.channel.undelivered.tail := by
  have read : (Operation.perform .read plane.channel).state =
      (Channel.read plane.channel).state := by rw [Operation.perform_read]; rfl
  have still := Operation.read.perform_legible legible
  have left := (Operation.readServed legible).2
  rw [read] at still left
  have routed := Plane.route_related same plane.catalog plane.program message plane.stack
    (Channel.read plane.channel).state still
  rw [left] at routed
  rw [Plane.serve_state, Plane.dispatch_apply, Plane.onStack_apply]
  exact routed

/-- The messages of a legible session are what its stream gives, and then it ends well. -/
theorem streams_of_legible (same : waiting.Respected σ) {plane : Plane σ LineSession}
    (legible : plane.channel.Legible) :
    Plane.Streams plane.channel.undelivered (.ok ()) plane := by
  -- The messages that wait are fixed first, since the session changes with each of them.
  generalize left : plane.channel.undelivered = messages
  induction messages generalizing plane with
  | nil =>
    have value := nextMessage_value legible
    rw [left] at value
    exact .closed value
  | cons message rest ih =>
    have value := nextMessage_value legible
    rw [left] at value
    obtain ⟨still, later⟩ := serve_waiting same message legible
    rw [left] at later
    exact .message value (ih still later)

/-- The first line that was sent, and others after it. -/
def SentFirst (line : Line) (session : LineSession) : Prop :=
  ∃ more, session.link.written = line :: more

theorem perform_sentFirst {line : Line} (operation : Operation) (session : LineSession)
    (first : SentFirst line session) : SentFirst line (operation.perform session).state := by
  obtain ⟨more, written⟩ := first
  rcases operation.kinds session with rfl | ⟨request, sends⟩
  · refine ⟨more, ?_⟩
    rw [(Operation.perform_read_keeps session).link]
    exact written
  · rw [SentFirst, (Operation.perform_sends sends).link, Link.after]
    dsimp only
    split
    · exact ⟨more ++ [encodeRequest request], by rw [written, List.cons_append]⟩
    · exact ⟨more, written⟩

/-- How a session announces itself. -/
def announcement (session : LineSession) : Request :=
  .arbitration session.deviceId (.ofLow session.electionId)

theorem announce_state (session : LineSession) :
    (Channel.announce session).value =
      (if session.link.accepts then .ok () else .error .streamWrite) ∧
    (Channel.announce session).state =
      { session with link := session.link.after (encodeRequest session.announcement) } := by
  have sent : Channel.announce session = send session.announcement session := by
    simp [Channel.announce, announcement]
  rw [sent, send_apply]
  exact ⟨rfl, rfl⟩

theorem announce_accepted {session : LineSession} (accepts : session.link.accepts = true) :
    (Channel.announce session).value = .ok () := by
  rw [session.announce_state.1, accepts]
  rfl

theorem announce_sentFirst {session : LineSession} (accepts : session.link.accepts = true)
    (fresh : session.link.written = []) :
    SentFirst (encodeRequest session.announcement) (Channel.announce session).state := by
  refine ⟨[], ?_⟩
  rw [session.announce_state.2]
  simp [Link.after, accepts, fresh]

theorem announce_legible {session : LineSession} (legible : session.Legible) :
    (Channel.announce session).state.Legible ∧
    (Channel.announce session).state.undelivered = session.undelivered := by
  rw [session.announce_state.2]
  exact ⟨⟨legible.text, legible.ended⟩, rfl⟩

theorem length_undelivered_le (session : LineSession) :
    session.undelivered.length ≤ session.horizon := by
  rw [undelivered, List.length_append, horizon]
  exact Nat.add_le_add_left (List.length_filterMap_le _ _) _

theorem request?_announcement (session : LineSession) :
    (Line.ofValue (encode session.announcement)).request? = some session.announcement := by
  have shallow : (encode session.announcement).nesting ≤ 127 :=
    show 3 ≤ 127 by decide
  exact Line.request?_ofValue trivial shallow

end LineSession

end SwitchAgent.Control
