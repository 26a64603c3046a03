import SwitchAgent.Proofs.Control.Dispatch

/-!
# The rounds of a run

A round reads a message and dispatches it. After its announcement a run is a series of rounds, up
to the first fatal fault or to the end of the stream, and what it did not read is left for the
next run.
-/

namespace SwitchAgent.Control.Plane

open SwitchAgent.Action Device Pipeline

variable {σ C : Type} [Channel C] [Controller σ C]

/-- A round, for the message that it reads. -/
def serve (message : Message) : Action (Plane σ C) (Except Fault Unit) := do
  let _ ← onChannel Channel.read
  dispatch message

theorem serve_value (message : Message) (plane : Plane σ C) :
    (serve message plane).value =
      (dispatch message (onChannel Channel.read plane).state).value := rfl

theorem serve_state (message : Message) (plane : Plane σ C) :
    (serve message plane).state =
      (dispatch message (onChannel Channel.read plane).state).state := rfl

/-- What is read from a plane, if every message is dispatched before the next reading: messages,
and then the end or a fault. -/
inductive Streams : List Message → Except Fault Unit → Plane σ C → Prop
  | closed {plane : Plane σ C} (read : (Channel.read plane.channel).value = .ok none) :
      Streams [] (.ok ()) plane
  | failed {plane : Plane σ C} {fault : Fault}
      (read : (Channel.read plane.channel).value = .error fault) :
      Streams [] (.error fault) plane
  | message {plane : Plane σ C} {m : Message} {messages : List Message}
      {ending : Except Fault Unit} (read : (Channel.read plane.channel).value = .ok (some m))
      (later : Streams messages ending (serve m plane).state) :
      Streams (m :: messages) ending plane

section Rounds

variable {plane : Plane σ C} {m : Message}

theorem follow_closed (read : (Channel.read plane.channel).value = .ok none) (limit : Nat) :
    dispatched (limit + 1) plane = [] ∧
    (follow (limit + 1) plane).value = some (.ok ()) ∧
    (follow (limit + 1) plane).state = (onChannel Channel.read plane).state := by
  simp [dispatched, follow, onChannel_apply, read, Action.info]

theorem follow_failed {fault : Fault}
    (read : (Channel.read plane.channel).value = .error fault) (limit : Nat) :
    dispatched (limit + 1) plane = [] ∧
    (follow (limit + 1) plane).value = some (.error fault) ∧
    (follow (limit + 1) plane).state = (onChannel Channel.read plane).state := by
  simp [dispatched, follow, onChannel_apply, read]

theorem follow_stopped {fault : Fault}
    (read : (Channel.read plane.channel).value = .ok (some m))
    (fails : (serve m plane).value = .error fault) (limit : Nat) :
    dispatched (limit + 1) plane = [m] ∧
    (follow (limit + 1) plane).value = some (.error fault) ∧
    (follow (limit + 1) plane).state = (serve m plane).state := by
  rw [serve_value, onChannel_apply] at fails
  simp [dispatched, follow, serve_state, onChannel_apply, read, fails]

theorem follow_served (read : (Channel.read plane.channel).value = .ok (some m))
    (passes : (serve m plane).value = .ok ()) (limit : Nat) :
    dispatched (limit + 1) plane = m :: dispatched limit (serve m plane).state ∧
    (follow (limit + 1) plane).value = (follow limit (serve m plane).state).value ∧
    (follow (limit + 1) plane).state = (follow limit (serve m plane).state).state := by
  rw [serve_value, onChannel_apply] at passes
  simp [dispatched, follow, serve_state, onChannel_apply, read, passes]

end Rounds

/-- How a stream is followed: round by round up to a fault that is fatal, or to the end. -/
structure Followed (limit : Nat) (messages : List Message) (ending : Except Fault Unit)
    (plane : Plane σ C) (unread : List Message) : Prop where
  upTo : UpTo serve IsFatal messages plane (dispatched limit plane) unread
  stopped : ∀ fault, .error fault ∈ answers serve (dispatched limit plane) plane →
    (follow limit plane).value = some (.error fault) ∧
    (follow limit plane).state = after serve (dispatched limit plane) plane ∧
    Streams unread ending (follow limit plane).state
  ended : (∀ answer ∈ answers serve (dispatched limit plane) plane, answer = .ok ()) →
    (follow limit plane).value = some ending ∧
    (follow limit plane).state =
      (onChannel Channel.read (after serve (dispatched limit plane) plane)).state

namespace Followed

variable {limit : Nat} {messages unread : List Message} {ending : Except Fault Unit}
variable {plane : Plane σ C} {m : Message}

theorem nil (heard : dispatched limit plane = [])
    (value : (follow limit plane).value = some ending)
    (state : (follow limit plane).state = (onChannel Channel.read plane).state) :
    Followed limit [] ending plane [] := by
  constructor
  case upTo =>
    rw [heard]
    exact .nil
  case stopped =>
    rw [heard]
    exact nofun
  case ended =>
    rw [heard]
    exact fun _ => ⟨value, state⟩

theorem halted {fault : Fault} (read : (Channel.read plane.channel).value = .ok (some m))
    (fails : (serve m plane).value = .error fault)
    (later : Streams messages ending (serve m plane).state) :
    Followed (limit + 1) (m :: messages) ending plane messages := by
  obtain ⟨heard, value, state⟩ := follow_stopped read fails limit
  have alone : answers serve [m] plane = [.error fault] := congrArg ([·]) fails
  constructor
  case upTo =>
    rw [heard]
    exact .halted ⟨fault, fails, isFatal_of_dispatch fails⟩ messages
  case stopped =>
    rw [heard, alone]
    intro other member
    cases List.mem_singleton.mp member
    exact ⟨value, state, state ▸ later⟩
  case ended =>
    rw [heard, alone]
    exact fun none => absurd (none _ List.mem_cons_self) nofun

theorem cons (read : (Channel.read plane.channel).value = .ok (some m))
    (passes : (serve m plane).value = .ok ())
    (later : Followed limit messages ending (serve m plane).state unread) :
    Followed (limit + 1) (m :: messages) ending plane unread := by
  obtain ⟨heard, value, state⟩ := follow_served read passes limit
  have first : answers serve (m :: dispatched limit (serve m plane).state) plane =
      .ok () :: answers serve (dispatched limit (serve m plane).state) (serve m plane).state :=
    congrArg (· :: _) passes
  constructor
  case upTo =>
    rw [heard]
    refine .cons ?_ later.upTo
    rw [passes]
    exact nofun
  case stopped =>
    rw [heard, first, value, state]
    intro fault member
    rcases List.mem_cons.mp member with same | member
    · cases same
    · exact later.stopped fault member
  case ended =>
    rw [heard, first, value, state]
    exact fun passed => later.ended fun answer member =>
      passed answer (List.mem_cons_of_mem _ member)

end Followed

/-- A stream is followed round by round, if it is not longer than the limit allows. -/
theorem Streams.followed {messages : List Message} {ending : Except Fault Unit}
    {plane : Plane σ C} (streams : Streams messages ending plane) {limit : Nat}
    (enough : messages.length < limit) :
    ∃ unread, Followed limit messages ending plane unread := by
  -- The stream decides how each round goes, and the limit has only to outlast it.
  induction streams generalizing limit with
  | closed read =>
    obtain ⟨limit, rfl⟩ := Nat.exists_eq_succ_of_ne_zero (Nat.ne_zero_of_lt enough)
    obtain ⟨heard, value, state⟩ := follow_closed read limit
    exact ⟨[], .nil heard value state⟩
  | failed read =>
    obtain ⟨limit, rfl⟩ := Nat.exists_eq_succ_of_ne_zero (Nat.ne_zero_of_lt enough)
    obtain ⟨heard, value, state⟩ := follow_failed read limit
    exact ⟨[], .nil heard value state⟩
  | @message plane m messages ending read later ih =>
    obtain ⟨limit, rfl⟩ := Nat.exists_eq_succ_of_ne_zero (Nat.ne_zero_of_lt enough)
    cases result : (serve m plane).value with
    | error fault => exact ⟨messages, .halted read result later⟩
    | ok _ =>
      obtain ⟨unread, followed⟩ := ih (Nat.lt_of_succ_lt_succ enough)
      exact ⟨unread, .cons read result followed⟩

/-- The phase of a plane is none of its channel's or its controllers' business. -/
theorem dispatch_phase (message : Message) (plane : Plane σ C) (phase : Phase) :
    (dispatch message { plane with phase }).value = (dispatch message plane).value ∧
    (dispatch message { plane with phase }).state =
      { (dispatch message plane).state with phase } := by
  simp [dispatch_apply, onStack_apply]

theorem serve_phase (message : Message) (plane : Plane σ C) (phase : Phase) :
    (serve message { plane with phase }).state = { (serve message plane).state with phase } :=
  (dispatch_phase message (onChannel Channel.read plane).state phase).2

theorem phase_serve (message : Message) (plane : Plane σ C) :
    (serve message plane).state.phase = plane.phase := by
  simp [serve_state, dispatch_apply, onStack_apply, onChannel_apply]

theorem Streams.inPhase {messages : List Message} {ending : Except Fault Unit}
    {plane : Plane σ C} (streams : Streams messages ending plane) (phase : Phase) :
    Streams messages ending { plane with phase } := by
  induction streams with
  | closed read => exact .closed read
  | failed read => exact .failed read
  | @message plane m messages ending read later ih =>
    refine .message read ?_
    rw [serve_phase]
    exact ih

/-- The plane on which an announced run begins to read. -/
def announced (plane : Plane σ C) : Plane σ C :=
  { plane with channel := (Channel.announce plane.channel).state, phase := .running }

section Run

variable {plane : Plane σ C}

theorem run_refused {fault : Fault} (refused : (Channel.announce plane.channel).value = .error fault)
    (limit : Nat) :
    heard limit plane = [] ∧
    (run limit plane).value = some (.error fault) ∧
    (run limit plane).state = { plane with
      channel := (Channel.announce plane.channel).state
      phase := .terminated } := by
  simp [heard, run, onChannel_apply, refused, enter, Action.error]

theorem run_begun (accepted : (Channel.announce plane.channel).value = .ok ()) (limit : Nat) :
    heard limit plane = dispatched limit plane.announced ∧
    (run limit plane).value = (follow limit plane.announced).value ∧
    (run limit plane).state =
      if (follow limit plane.announced).value.isSome then
        { (follow limit plane.announced).state with phase := .terminated }
      else (follow limit plane.announced).state := by
  constructor
  · simp [heard, announced, onChannel_apply, accepted, dispatched_eq]
  · cases result : (follow limit plane.announced).value.isSome <;>
      rw [announced] at result ⊢ <;>
      simp [run, onChannel_apply, accepted, enter, Action.info, result]

/-- Whatever ended a run, it left the plane terminated. -/
theorem phase_of_run {limit : Nat} (returns : (run limit plane).value.isSome = true) :
    (run limit plane).state.phase = .terminated := by
  cases result : (Channel.announce plane.channel).value with
  | error fault => rw [(run_refused result limit).2.2]
  | ok _ =>
    obtain ⟨-, value, state⟩ := run_begun result limit
    rw [value] at returns
    rw [state, if_pos returns]

end Run

/-- What a run does that has been announced, for what is read from its stream. -/
structure Served (limit : Nat) (messages : List Message) (ending : Except Fault Unit)
    (plane : Plane σ C) (unread : List Message) : Prop where
  upTo : UpTo serve IsFatal messages plane.announced (heard limit plane) unread
  /-- Every dispatch of the run finds the plane running. -/
  running : ∀ earlier message later, heard limit plane = earlier ++ message :: later →
    (onChannel Channel.read (after serve earlier plane.announced)).state.phase = .running
  /-- After a fatal fault nothing more is read. -/
  stopped : ∀ fault, .error fault ∈ answers serve (heard limit plane) plane.announced →
    (run limit plane).value = some (.error fault) ∧
    (run limit plane).state =
      { after serve (heard limit plane) plane.announced with phase := .terminated } ∧
    Streams unread ending (run limit plane).state
  ended : (∀ answer ∈ answers serve (heard limit plane) plane.announced, answer = .ok ()) →
    (run limit plane).value = some ending ∧
    (run limit plane).state =
      { (onChannel Channel.read (after serve (heard limit plane) plane.announced)).state with
        phase := .terminated }

theorem Streams.served {plane : Plane σ C} {messages : List Message}
    {ending : Except Fault Unit} (accepted : (Channel.announce plane.channel).value = .ok ())
    (streams : Streams messages ending plane.announced) {limit : Nat}
    (enough : messages.length < limit) : ∃ unread, Served limit messages ending plane unread := by
  obtain ⟨unread, followed⟩ := streams.followed enough
  obtain ⟨heard, value, state⟩ := run_begun accepted limit
  refine ⟨unread, ?_, ?_, ?_, ?_⟩
  · rw [heard]
    exact followed.upTo
  · intro earlier message later _
    have kept (message : Message) (plane : Plane σ C) (running : plane.phase = .running) :
        (serve message plane).state.phase = .running :=
      (phase_serve message plane).trans running
    have still : (after serve earlier plane.announced).phase = .running :=
      after_invariant kept earlier rfl
    exact still
  · rw [heard]
    intro fault member
    obtain ⟨value', state', left⟩ := followed.stopped fault member
    have returns : (follow limit plane.announced).value.isSome = true := by rw [value']; rfl
    rw [value, state, if_pos returns]
    refine ⟨value', ?_, left.inPhase .terminated⟩
    rw [state']
  · rw [heard]
    intro passed
    obtain ⟨value', state'⟩ := followed.ended passed
    have returns : (follow limit plane.announced).value.isSome = true := by rw [value']; rfl
    rw [value, state, if_pos returns, state']
    exact ⟨value', rfl⟩

end SwitchAgent.Control.Plane
