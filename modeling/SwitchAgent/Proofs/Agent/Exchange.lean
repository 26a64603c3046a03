import SwitchAgent.Proofs.Control.Memoryless
import SwitchAgent.Proofs.Control.Passing
import SwitchAgent.Proofs.Control.Rounds
import SwitchAgent.Proofs.Learning.Digests

/-!
# Features in another order

Address learning and telemetry never claim the same event, and neither uses anything of the other.
Which of them stands on top of the stack shows only in the order in which an election has their
batches installed.
-/

namespace SwitchAgent.Agent

open SwitchAgent.Action Control Device Learning Plane

/-- The feature on top of the stack. -/
inductive Top where
  | telemetry
  | learning

namespace Configuration

variable {P C : Type} (c : Configuration)

/-- The features, the bottom of the stack first. -/
def stackUnder (outlets : Outlets P) : Top → List (Feature P)
  | .telemetry => c.stack outlets
  | .learning => [.fallback {}, .telemetry (c.telemetry outlets), .learning c.learning]

def planeUnder (top : Top) (phase : Phase) (outlets : Outlets P) (channel : C) :
    Plane (Feature P) C :=
  { c.plane outlets channel with stack := c.stackUnder outlets top, phase }

/-- What an election has installed for address learning. -/
def learningBatches : List (List Entity) :=
  c.learning.batches.map Prod.snd

/-- What an election has installed for telemetry, wherever reports go. -/
def telemetryBatches : List (List Entity) :=
  (c.telemetry (P := Unit) ⟨(), .disabled⟩).batches

/-- The features are told of an election from the bottom of the stack up. -/
def batchesUnder : Top → List (List Entity)
  | .telemetry => c.learningBatches ++ c.telemetryBatches
  | .learning => c.telemetryBatches ++ c.learningBatches

/-- The calls that a message makes where an election installs these batches. -/
def callsFor (deviceId electionId : UInt64) (batches : List (List Entity)) : Message → List Call
  | .arbitration update =>
    if update.status.code = 0 then
      .configure c.catalog c.program :: batches.map fun entities =>
        .write ⟨deviceId, ⟨0, electionId⟩, .continueOnError, entities.map (⟨.insert, ·⟩)⟩
    else []
  | .event (.digest list) => (c.learning.attempted deviceId electionId list).map Operation.call
  | _ => []

/-- What a message comes to: a digest of addresses is decided by its entries, and then by whether it
can be acknowledged. -/
def answerTo (policy : Policy) : Message → Except Fault Unit
  | .event (.digest list) =>
    if list.digestId = c.digestId then
      (settled ((list.data.mapM Sighting.ofDatum).bind fun _ =>
        (policy.outcome (.acknowledge list.digestId list.listId)).map fun _ => true)).map fun _ => ()
    else .ok ()
  | _ => .ok ()

variable [Telemetry.Publisher P] [Channel C]

/-- Of every event at least one of the two features knows nothing. -/
theorem passes_or_passes (event : Event) (outlets : Outlets P) :
    Passes C event (.learning c.learning : Feature P) ∨
    Passes C event (.telemetry (c.telemetry outlets) : Feature P) := by
  by_cases packet : ∃ content, event = .packet content
  · obtain ⟨content, rfl⟩ := packet
    left
    intro channel
    refine Feature.learning_passes (fun list same => ?_) channel
    cases same
  · right
    intro channel
    refine telemetry_passes (fun content _ same => ?_) _ channel
    exact absurd ⟨content, same⟩ packet

theorem offer_stackUnder (top : Top) (event : Event) (outlets : Outlets P) (channel : C) :
    let offered := offer event (c.stackUnder outlets top) channel
    let taken := c.taking event channel
    offered.value.2.map (fun _ => ()) = (settled taken.value).map (fun _ => ()) ∧
    offered.state = taken.state ∧
    offered.value.1 = c.stackUnder (c.reported outlets (.event event)) top := by
  obtain ⟨value, state⟩ := dispatch_event event (c.plane outlets channel)
  obtain ⟨byCourse, left⟩ := c.dispatch_event_by_course event outlets channel
  have result := value.symm.trans byCourse
  have planes := state.symm.trans left
  have channels := congrArg Plane.channel planes
  have features := congrArg Plane.stack planes
  cases top with
  | telemetry => exact ⟨result, channels, features⟩
  | learning =>
    -- The features that the other order leaves are those that this one leaves, changed over.
    obtain ⟨f, l, t, alike⟩ :=
      offer_exchanged (c.passes_or_passes event outlets) (.fallback {}) channel
    have same : [f, l, t] = c.stack (c.reported outlets (.event event)) :=
      alike.controllers.symm.trans features
    cases same
    refine ⟨?_, ?_, alike.controllersToo⟩
    · rw [← result]
      exact congrArg (Except.map fun _ => ()) alike.result.symm
    · exact alike.channel.symm.trans channels

omit [Telemetry.Publisher P] in
theorem flatMap_batches (outlets : Outlets P) (top : Top) :
    (c.stackUnder outlets top).flatMap Feature.batches = c.batchesUnder top := by
  have fallback : Feature.batches (.fallback {} : Feature P) = [] := rfl
  have learning : Feature.batches (.learning c.learning : Feature P) = c.learningBatches := rfl
  have telemetry : Feature.batches (.telemetry (c.telemetry outlets)) = c.telemetryBatches := rfl
  cases top <;> simp [stackUnder, stack, batchesUnder, fallback, learning, telemetry]

section Memoryless

variable {script : Script} (memoryless : script.policy.Memoryless)
include memoryless

omit [Telemetry.Publisher P] in
theorem learn_answer (list : DigestList) :
    (Learning.Controller.learn list script).value =
      (list.data.mapM Sighting.ofDatum).bind fun _ =>
        (script.policy.outcome (.acknowledge list.digestId list.listId)).map fun _ => true := by
  cases read : list.data.mapM Sighting.ofDatum with
  | error fault => exact (Learning.Controller.learn_refused read script).1
  | ok sightings =>
    rw [(Learning.Controller.learn_read read script).1, Script.insertAll_of_memoryless memoryless]
    generalize List.map _ _ = written
    have still : (script.tried written).policy.Memoryless := memoryless
    exact congrArg (Except.map fun _ => true)
      (Script.attempt_of_memoryless still (.acknowledge list.digestId list.listId)).1

theorem taking_of_memoryless (event : Event) (batches : List (List Entity)) :
    (settled (c.taking event script).value).map (fun _ => ()) =
      c.answerTo script.policy (.event event) ∧
    (c.taking event script).state =
      script.tried (c.callsFor script.deviceId script.electionId batches (.event event)) := by
  cases event with
  | digest list =>
    have handled := Learning.Controller.handle_digest_state c.learning list script
    have tried := Script.performAll_of_memoryless memoryless
      (c.learning.read_not_mem_attempted script.deviceId script.electionId list)
    by_cases own : list.digestId = c.digestId
    · rw [c.taking_own own, learn_answer memoryless, answerTo, if_pos own]
      rw [(Learning.Controller.handle_own own script).2] at handled
      exact ⟨rfl, handled.trans tried⟩
    · rw [c.taking_foreign (fun other same => by cases same; exact own), answerTo, if_neg own]
      rw [(Learning.Controller.handle_foreign own script).2] at handled
      exact ⟨rfl, handled.trans tried⟩
  | packet content => exact ⟨rfl, script.tried_nil.symm⟩
  | idleTimeout notice => exact ⟨rfl, script.tried_nil.symm⟩
  | error report => exact ⟨rfl, script.tried_nil.symm⟩

omit [Telemetry.Publisher P] in
theorem elected_of_memoryless (top : Top) (phase : Phase) (update : Arbitration)
    (outlets : Outlets P) :
    let plane := c.planeUnder top phase outlets script
    after Channel.insertAll (if update.isPrimary then plane.stack.flatMap Feature.batches else [])
        (plane.afterInstall update) =
      script.tried (c.callsFor script.deviceId script.electionId (c.batchesUnder top)
        (.arbitration update)) := by
  intro plane
  by_cases elected : update.status.code = 0
  · have primary := Arbitration.isPrimary_iff.mpr elected
    have start : plane.afterInstall update = script.tried [.configure c.catalog c.program] := by
      rw [afterInstall, if_pos elected]
      exact (Script.attempt_of_memoryless memoryless _).2
    have still : (script.tried [.configure c.catalog c.program]).policy.Memoryless := memoryless
    have same : plane.stack.flatMap Feature.batches = c.batchesUnder top :=
      c.flatMap_batches outlets top
    rw [if_pos primary, start, same, Script.insertAll_of_memoryless still, Script.tried_tried,
      callsFor, if_pos elected]
    rfl
  · have other := elected ∘ Arbitration.isPrimary_iff.mp
    rw [if_neg other, callsFor, if_neg elected, Script.tried_nil, afterInstall, if_neg elected]
    rfl

/-- Under either order a dispatch comes to the same, but for the order of the batches. -/
theorem dispatch_planeUnder (top : Top) (phase : Phase) (message : Message)
    (outlets : Outlets P) :
    let routed := dispatch message (c.planeUnder top phase outlets script)
    routed.value = c.answerTo script.policy message ∧
    routed.state = c.planeUnder top phase (c.reported outlets message)
      (script.tried (c.callsFor script.deviceId script.electionId (c.batchesUnder top)
        message)) := by
  cases message with
  | arbitration update =>
    obtain ⟨value, state⟩ :=
      Feature.dispatch_election update (c.planeUnder top phase outlets script)
    refine ⟨value, ?_⟩
    rw [state]
    exact congrArg (c.planeUnder top phase outlets)
      (c.elected_of_memoryless memoryless top phase update outlets)
  | event event =>
    obtain ⟨result, channel, features⟩ := c.offer_stackUnder top event outlets script
    obtain ⟨answer, tried⟩ := c.taking_of_memoryless memoryless event (c.batchesUnder top)
    obtain ⟨value, state⟩ := dispatch_event event (c.planeUnder top phase outlets script)
    constructor
    · exact value.trans (result.trans answer)
    · rw [← tried, ← channel, state, planeUnder, planeUnder, ← features]
      rfl
  | unknown => exact ⟨rfl, congrArg (c.planeUnder top phase outlets) script.tried_nil.symm⟩

theorem series_planeUnder (top : Top) (phase : Phase) (history : List Message)
    (outlets : Outlets P) :
    let plane := c.planeUnder top phase outlets script
    answers dispatch history plane = history.map (c.answerTo script.policy) ∧
    after dispatch history plane = c.planeUnder top phase (history.foldl c.reported outlets)
      (script.tried (history.flatMap
        (c.callsFor script.deviceId script.electionId (c.batchesUnder top)))) := by
  induction history generalizing outlets script with
  | nil => exact ⟨rfl, congrArg (c.planeUnder top phase outlets) script.tried_nil.symm⟩
  | cons message rest ih =>
    obtain ⟨value, state⟩ := c.dispatch_planeUnder memoryless top phase message outlets
    generalize called : c.callsFor script.deviceId script.electionId (c.batchesUnder top) message
      = calls at state
    have still : (script.tried calls).policy.Memoryless := memoryless
    obtain ⟨values, left⟩ := ih still (c.reported outlets message)
    constructor
    · rw [answers, value, state, values]
      rfl
    · change after dispatch rest (dispatch message (c.planeUnder top phase outlets script)).state = _
      rw [state, left, Script.tried_tried, List.flatMap_cons, called]
      rfl

theorem serve_planeUnder (accepted : script.policy.outcome .read = .ok ()) {message : Message}
    {rest : List Message} (waiting : script.messages = message :: rest) (top : Top) (phase : Phase)
    (outlets : Outlets P) :
    let plane := c.planeUnder top phase outlets script
    (serve message plane).value = c.answerTo script.policy message ∧
    (serve message plane).state = c.planeUnder top phase (c.reported outlets message)
      { script.tried (.read :: c.callsFor script.deviceId script.electionId (c.batchesUnder top)
          message) with messages := rest } := by
  intro plane
  obtain ⟨-, read⟩ := Script.read_of_cons memoryless accepted waiting
  have still : ({ script.tried [.read] with messages := rest } : Script).policy.Memoryless :=
    memoryless
  obtain ⟨value, state⟩ := c.dispatch_planeUnder still top phase message outlets
  have begun : (onChannel Channel.read plane).state =
      c.planeUnder top phase outlets { script.tried [.read] with messages := rest } :=
    congrArg (c.planeUnder top phase outlets) read
  rw [serve_value, serve_state, begun, value, state]
  refine ⟨rfl, congrArg (c.planeUnder top phase _) ?_⟩
  simp [Script.tried]

/-- The calls of a round. -/
def turn (deviceId electionId : UInt64) (batches : List (List Entity)) (message : Message) :
    List Call :=
  .read :: c.callsFor deviceId electionId batches message

/-- How a stream is followed, whichever feature stands on top and whatever else was called before. -/
def FollowsTo (limit : Nat) (phase : Phase) (outlets : Outlets P) (script : Script)
    (result : Option (Except Fault Unit)) (heard rest : List Message) (ended : List Call) : Prop :=
  ∀ top calls,
    let start := script.tried calls
    let plane := c.planeUnder top phase outlets start
    (follow limit plane).value = result ∧ dispatched limit plane = heard ∧
    (follow limit plane).state = c.planeUnder top phase (heard.foldl c.reported outlets)
      { start.tried (heard.flatMap (c.turn script.deviceId script.electionId
          (c.batchesUnder top)) ++ ended) with messages := rest }

namespace FollowsTo

variable {c} (limit : Nat) (phase : Phase) (outlets : Outlets P)

omit memoryless in
theorem spent :
    c.FollowsTo 0 phase outlets script none [] script.messages [] := by
  intro top calls start plane
  exact ⟨rfl, rfl, congrArg (c.planeUnder top phase outlets) start.tried_nil.symm⟩

theorem failed {fault : Fault} (refused : script.policy.outcome .read = .error fault) :
    c.FollowsTo (limit + 1) phase outlets script (some (.error fault)) [] script.messages
      [.read] := by
  intro top calls start plane
  have still : start.policy.Memoryless := memoryless
  obtain ⟨value, state⟩ := Script.read_refused still refused
  have read : (Channel.read plane.channel).value = .error fault := value
  obtain ⟨heard, result, left⟩ := follow_failed read limit
  exact ⟨result, heard, left.trans (congrArg (c.planeUnder top phase outlets) state)⟩

section Accepted

variable (accepted : script.policy.outcome .read = .ok ())
include accepted

theorem closed (ended : script.messages = []) :
    c.FollowsTo (limit + 1) phase outlets script (some (.ok ())) [] script.messages [.read] := by
  intro top calls start plane
  have still : start.policy.Memoryless := memoryless
  obtain ⟨value, state⟩ := Script.read_of_nil still accepted ended
  have read : (Channel.read plane.channel).value = .ok none := value
  obtain ⟨heard, result, left⟩ := follow_closed read limit
  exact ⟨result, heard, left.trans (congrArg (c.planeUnder top phase outlets) state)⟩

variable {message : Message} {rest : List Message} (waiting : script.messages = message :: rest)
include waiting

theorem stopped {fault : Fault} (fails : c.answerTo script.policy message = .error fault) :
    c.FollowsTo (limit + 1) phase outlets script (some (.error fault)) [message] rest [] := by
  intro top calls start plane
  have still : start.policy.Memoryless := memoryless
  obtain ⟨value, -⟩ := Script.read_of_cons still accepted waiting
  have read : (Channel.read plane.channel).value = .ok (some message) := value
  obtain ⟨answer, state⟩ := c.serve_planeUnder still accepted waiting top phase outlets
  obtain ⟨heard, result, left⟩ := follow_stopped read (answer.trans fails) limit
  refine ⟨result, heard, (left.trans state).trans ?_⟩
  rw [List.append_nil, List.flatMap_singleton]
  rfl

theorem served (passes : c.answerTo script.policy message = .ok ())
    {result : Option (Except Fault Unit)} {heard left : List Message} {ended : List Call}
    (follows : c.FollowsTo limit phase (c.reported outlets message)
      { script with messages := rest } result heard left ended) :
    c.FollowsTo (limit + 1) phase outlets script result (message :: heard) left ended := by
  intro top calls start plane
  have still : start.policy.Memoryless := memoryless
  obtain ⟨value, -⟩ := Script.read_of_cons still accepted waiting
  have read : (Channel.read plane.channel).value = .ok (some message) := value
  obtain ⟨answer, state⟩ := c.serve_planeUnder still accepted waiting top phase outlets
  obtain ⟨first, goesOn, ends⟩ := follow_served read (answer.trans passes) limit
  rw [Script.tried_tried] at state
  obtain ⟨result, heard, left⟩ := follows top
    (calls ++ c.turn script.deviceId script.electionId (c.batchesUnder top) message)
  have next : (serve message plane).state = c.planeUnder top phase (c.reported outlets message)
      (({ script with messages := rest } : Script).tried
        (calls ++ c.turn script.deviceId script.electionId (c.batchesUnder top) message)) := state
  rw [first, goesOn, ends, next]
  refine ⟨result, congrArg (message :: ·) heard, left.trans ?_⟩
  refine congrArg (c.planeUnder top phase _) ?_
  simp [Script.tried, List.flatMap_cons, start]

end Accepted

end FollowsTo

theorem exists_followsTo (limit : Nat) (phase : Phase) (outlets : Outlets P) :
    ∃ result heard rest ended, (ended = [] ∨ ended = [.read]) ∧
      c.FollowsTo limit phase outlets script result heard rest ended := by
  -- A round leaves the same script with more calls, and `FollowsTo` holds behind any calls.
  induction limit generalizing outlets script with
  | zero => exact ⟨_, _, _, _, Or.inl rfl, .spent phase outlets⟩
  | succ limit ih =>
    cases accepted : script.policy.outcome .read with
    | error fault => exact ⟨_, _, _, _, Or.inr rfl, .failed memoryless limit phase outlets accepted⟩
    | ok _ =>
      cases waiting : script.messages with
      | nil =>
        exact ⟨_, _, _, _, Or.inr rfl, .closed memoryless limit phase outlets accepted waiting⟩
      | cons message rest =>
        cases answer : c.answerTo script.policy message with
        | error fault =>
          exact ⟨_, _, _, _, Or.inl rfl,
            .stopped memoryless limit phase outlets accepted waiting answer⟩
        | ok _ =>
          have later : ({ script with messages := rest } : Script).policy.Memoryless := memoryless
          obtain ⟨result, heard, left, ended, last, follows⟩ :=
            ih later (c.reported outlets message)
          exact ⟨_, _, _, _, last,
            .served memoryless limit phase outlets accepted waiting answer follows⟩

/-- A run announces the agent and follows the stream if it could be announced. -/
theorem exists_run (limit : Nat) (outlets : Outlets P) :
    ∃ result messages phase rest ended, (ended = [] ∨ ended = [.read]) ∧ ∀ top,
      let plane := c.planeUnder top .unarbitrated outlets script
      (Plane.run limit plane).value = result ∧ heard limit plane = messages ∧
      (Plane.run limit plane).state = c.planeUnder top phase (messages.foldl c.reported outlets)
        { script.tried (.announce :: (messages.flatMap (c.turn script.deviceId script.electionId
            (c.batchesUnder top)) ++ ended)) with messages := rest } := by
  obtain ⟨outcome, announced⟩ := Script.attempt_of_memoryless memoryless .announce
  cases accepted : script.policy.outcome .announce with
  | error fault =>
    refine ⟨some (.error fault), [], .terminated, script.messages, [], Or.inl rfl, fun top => ?_⟩
    intro plane
    have refused : (Channel.announce plane.channel).value = .error fault := outcome.trans accepted
    obtain ⟨heard, value, state⟩ := run_refused refused limit
    refine ⟨value, heard, state.trans ?_⟩
    exact congrArg (c.planeUnder top .terminated outlets) announced
  | ok _ =>
    obtain ⟨result, messages, rest, ended, last, follows⟩ :=
      c.exists_followsTo memoryless limit .running outlets
    refine ⟨result, messages, if result.isSome then .terminated else .running, rest, ended,
      last, fun top => ?_⟩
    intro plane
    have begun : (Channel.announce plane.channel).value = .ok () := outcome.trans accepted
    have start : plane.announced = c.planeUnder top .running outlets (script.tried [.announce]) :=
      congrArg (c.planeUnder top .running outlets) announced
    obtain ⟨heard, value, state⟩ := run_begun begun limit
    obtain ⟨value', heard', state'⟩ := follows top [.announce]
    rw [start] at heard value state
    rw [Script.tried_tried] at state'
    refine ⟨value.trans value', heard.trans heard', ?_⟩
    rw [state, value', state']
    cases result <;> rfl

end Memoryless

omit [Telemetry.Publisher P] in
theorem sameButWrites_callsFor (deviceId electionId : UInt64) (one other : List (List Entity))
    (message : Message) :
    SameButWrites (c.callsFor deviceId electionId one message)
      (c.callsFor deviceId electionId other message) := by
  have none (batches : List (List Entity)) (write : List Entity → WriteRequest) :
      (batches.map fun entities => Call.write (write entities)).filter (!·.isWrite) = [] := by
    rw [List.filter_map, List.map_eq_nil_iff, List.filter_eq_nil_iff]
    simp [Call.isWrite]
  cases message with
  | arbitration update =>
    rw [callsFor, callsFor]
    split
    · simp only [SameButWrites, List.filter_cons, none]
    · rfl
  | event event => cases event <;> rfl
  | unknown => rfl

/-- What two planes have in common whose features stand in either order: reports go out alike, and
the calls are these, given the batches of an election. -/
structure Exchanged (start : Script) (outlets : Outlets P)
    (calls : List (List Entity) → List Call) (left right : Plane (Feature P) Script) : Prop where
  stack : left.stack = [.fallback {}, .learning c.learning, .telemetry (c.telemetry outlets)]
  stackToo : right.stack = [.fallback {}, .telemetry (c.telemetry outlets), .learning c.learning]
  phase : left.phase = right.phase
  attempts : left.channel.attempts =
    (start.tried (calls (c.learningBatches ++ c.telemetryBatches))).attempts
  attemptsToo : right.channel.attempts =
    (start.tried (calls (c.telemetryBatches ++ c.learningBatches))).attempts
  acknowledgements : left.channel.acknowledgements = right.channel.acknowledgements
  programs : left.channel.programs = right.channel.programs

omit [Telemetry.Publisher P] in
theorem exchanged_planesUnder (phase : Phase) (outlets : Outlets P) (script : Script)
    (rest : List Message) {calls : List (List Entity) → List Call}
    (same : ∀ one other, SameButWrites (calls one) (calls other)) :
    c.Exchanged script outlets calls
      (c.planeUnder .telemetry phase outlets
        { script.tried (calls (c.batchesUnder .telemetry)) with messages := rest })
      (c.planeUnder .learning phase outlets
        { script.tried (calls (c.batchesUnder .learning)) with messages := rest }) where
  stack := rfl
  stackToo := rfl
  phase := rfl
  attempts := rfl
  attemptsToo := rfl
  acknowledgements := (same _ _).acknowledgements script
  programs := (same _ _).programs script

example : portless.batchesUnder .telemetry ≠ portless.batchesUnder .learning := by decide

end Configuration

end SwitchAgent.Agent
