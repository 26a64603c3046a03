import SwitchAgent.Control.Plane

/-!
# The course of a run

What a control plane does to its channel, apart from the plane: a message is routed through a
stack that is handed on from step to step, and the messages that were routed are kept. A run of
the plane is its course.
-/

namespace SwitchAgent.Device

theorem Arbitration.isPrimary_iff {update : Arbitration} :
    update.isPrimary = true ↔ update.status.code = 0 := by
  simp [isPrimary, Status.isOk]

end SwitchAgent.Device

namespace SwitchAgent.Control.Plane

open Device Pipeline

variable {σ C : Type} [Channel C] [Controller σ C]

def installOn (catalog : Catalog) (program : List UInt8) (update : Arbitration) :
    Action C Unit := do
  if update.isPrimary then
    Action.info "Elected as primary controller"
    match ← Channel.configure catalog program with
    | .ok _ => return
    | .error fault => Action.warn s!"Setting pipeline config failed: {fault.message}"
  else
    Action.info "Other controller elected as primary"

/-- Route one message through a stack. -/
def route (catalog : Catalog) (program : List UInt8) (message : Message) (stack : List σ) :
    Action C (List σ × Except Fault Unit) := do
  Action.debug s!"Received {message.text}"
  match message with
  | .arbitration update => do
    installOn catalog program update
    inform update stack
  | .event event => do
    let (stack, result) ← offer event stack
    match result with
    | .error fault => return (stack, .error fault)
    | .ok taken => do
      unless taken do Action.debug (leftOver event)
      return (stack, .ok ())
  | .unknown => do
    Action.warn "Unknown data plane event"
    return (stack, .ok ())

/-- What came of following a stream. -/
structure Course (σ : Type) where
  stack : List σ
  /-- The messages that were routed, in order. -/
  heard : List Message
  result : Option (Except Fault Unit)

def Course.after (message : Message) (course : Course σ) : Course σ :=
  { course with heard := message :: course.heard }

def course (catalog : Catalog) (program : List UInt8) : Nat → List σ → Action C (Course σ)
  | 0, stack => return ⟨stack, [], none⟩
  | limit + 1, stack => do
    match ← Channel.read with
    | .error fault => return ⟨stack, [], some (.error fault)⟩
    | .ok none => do
      Action.info "Stream channel closed by the switch"
      return ⟨stack, [], some (.ok ())⟩
    | .ok (some message) => do
      let (stack, result) ← route catalog program message stack
      match result with
      | .error fault => return ⟨stack, [message], some (.error fault)⟩
      | .ok _ => return (← course catalog program limit stack).after message

section Steps

variable {catalog : Catalog} {program : List UInt8} {limit : Nat} {stack after : List σ}
variable {c next settled : C} {log told : Log} {message : Message}

theorem course_ended (read : Channel.read c = ⟨.ok none, next, log⟩) :
    course catalog program (limit + 1) stack c =
      ⟨⟨stack, [], some (.ok ())⟩, next,
        log ++ [⟨.info, "Stream channel closed by the switch"⟩]⟩ := by
  simp [course, read, Action.info]

theorem course_failed {fault : Fault} (read : Channel.read c = ⟨.ok (some message), next, log⟩)
    (fails : route catalog program message stack next = ⟨(after, .error fault), settled, told⟩) :
    course catalog program (limit + 1) stack c =
      ⟨⟨after, [message], some (.error fault)⟩, settled, log ++ told⟩ := by
  simp [course, read, fails]

theorem course_routed (read : Channel.read c = ⟨.ok (some message), next, log⟩)
    (passes : route catalog program message stack next = ⟨(after, .ok ()), settled, told⟩) :
    let later := course catalog program limit after settled
    course catalog program (limit + 1) stack c =
      ⟨later.value.after message, later.state, log ++ (told ++ later.log)⟩ := by
  simp [course, read, passes]

end Steps

theorem onChannel_apply {τ D α : Type} (action : Action D α) (plane : Plane τ D) :
    onChannel action plane =
      ⟨(action plane.channel).value, { plane with channel := (action plane.channel).state },
        (action plane.channel).log⟩ := rfl

theorem onStack_apply {τ D α : Type} [Channel D] [Controller τ D]
    (act : List τ → Action D (List τ × α)) (plane : Plane τ D) :
    onStack act plane =
      ⟨(act plane.stack plane.channel).value.2,
        { plane with
          channel := (act plane.stack plane.channel).state
          stack := (act plane.stack plane.channel).value.1 },
        (act plane.stack plane.channel).log⟩ := by
  simp [onStack, onChannel_apply]

omit [Controller σ C] in
theorem install_apply (update : Arbitration) (plane : Plane σ C) :
    install update plane = onChannel (installOn plane.catalog plane.program update) plane := by
  rw [install, installOn]
  split
  · simp only [onChannel_apply, Action.bind_apply, Action.get_apply, Action.info,
      Action.log_apply]
    cases (Channel.configure plane.catalog plane.program plane.channel).value <;> rfl
  · rfl

/-- The plane does with a message what its stack does on the channel. -/
theorem dispatch_apply (message : Message) (plane : Plane σ C) :
    dispatch message plane = onStack (route plane.catalog plane.program message) plane := by
  rw [onStack_apply]
  unfold dispatch route
  cases message with
  | arbitration update =>
    simp [install_apply, onStack_apply, onChannel_apply, Action.debug]
  | event event =>
    simp only [Action.bind_apply, onStack_apply, Action.debug, Action.log_apply]
    cases result : (offer event plane.stack plane.channel).value.2 with
    | error fault => simp
    | ok taken => cases taken <;> simp
  | unknown => rfl

theorem follow_apply (limit : Nat) (plane : Plane σ C) :
    let course := course plane.catalog plane.program limit plane.stack plane.channel
    follow limit plane =
      ⟨course.value.result,
        { plane with channel := course.state, stack := course.value.stack }, course.log⟩ := by
  induction limit generalizing plane with
  | zero => rfl
  | succ limit ih =>
    simp only [follow, course, Action.bind_apply, onChannel_apply]
    cases read : (Channel.read plane.channel).value with
    | error fault => simp
    | ok message =>
      cases message with
      | none => simp [Action.info]
      | some message =>
        simp only [Action.bind_apply, dispatch_apply, onStack_apply]
        cases routed : (route plane.catalog plane.program message plane.stack
            (Channel.read plane.channel).state).value.2 with
        | error fault => simp
        | ok _ => simp [ih, Course.after]

/-- What the log says of an announcement. -/
def greeting (channel : C) : Log.Record :=
  ⟨.info, s!"Announced controller for device {Channel.deviceId channel} " ++
    s!"with election id {Channel.electionId channel}"⟩

/-- The messages that are dispatched while a stream is followed, in order. -/
def dispatched : Nat → Plane σ C → List Message
  | 0, _ => []
  | limit + 1, plane =>
    let read := onChannel Channel.read plane
    match read.value with
    | .ok (some message) =>
      let routed := dispatch message read.state
      match routed.value with
      | .ok _ => message :: dispatched limit routed.state
      | .error _ => [message]
    | _ => []

/-- The messages that a run dispatches. -/
def heard (limit : Nat) (plane : Plane σ C) : List Message :=
  let announced := onChannel Channel.announce plane
  match announced.value with
  | .ok _ => dispatched limit announced.state
  | .error _ => []

theorem dispatched_eq (limit : Nat) (plane : Plane σ C) :
    dispatched limit plane =
      (course plane.catalog plane.program limit plane.stack plane.channel).value.heard := by
  induction limit generalizing plane with
  | zero => rfl
  | succ limit ih =>
    simp only [dispatched, course, Action.bind_apply, onChannel_apply]
    cases read : (Channel.read plane.channel).value with
    | error fault => simp
    | ok message =>
      cases message with
      | none => simp
      | some message =>
        simp only [Action.bind_apply, dispatch_apply, onStack_apply]
        cases routed : (route plane.catalog plane.program message plane.stack
            (Channel.read plane.channel).state).value.2 with
        | error fault => simp
        | ok _ => simp [ih, Course.after]

section Run

variable {plane : Plane σ C} {limit : Nat} {start state : C} {log told : Log} {value : Course σ}

/-- Once announced, a run goes as its course does. -/
theorem run_apply (announced : Channel.announce plane.channel = ⟨.ok (), start, log⟩)
    (follows : course plane.catalog plane.program limit plane.stack start = ⟨value, state, told⟩) :
    run limit plane =
      ⟨value.result,
        { plane with
          channel := state
          stack := value.stack
          phase := if value.result.isSome then .terminated else .running },
        log ++ (greeting start :: told)⟩ := by
  simp only [run, Action.bind_apply, onChannel_apply, announced, enter, Action.modify_apply,
    Action.get_apply, Action.info, Action.log_apply, follow_apply, follows]
  cases value.result with
  | none => simp [greeting]
  | some result => simp [greeting]

theorem heard_apply (announced : Channel.announce plane.channel = ⟨.ok (), start, log⟩)
    (follows : course plane.catalog plane.program limit plane.stack start = ⟨value, state, told⟩) :
    heard limit plane = value.heard := by
  simp [heard, onChannel_apply, announced, dispatched_eq, follows]

end Run

end SwitchAgent.Control.Plane
