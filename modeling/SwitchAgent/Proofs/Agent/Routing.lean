import SwitchAgent.Proofs.Agent.Conduct
import SwitchAgent.Proofs.Agent.Configuration
import SwitchAgent.Proofs.Agent.Features
import SwitchAgent.Proofs.Control.Scripts

/-!
# Which feature takes what

A packet that can be decoded makes a report, a digest of addresses is learned from, and whatever is
left is taken by the fallback. However long this goes on, reports go out by the same outlets and the
features are those of the configuration.
-/

namespace SwitchAgent

open SwitchAgent.Action Control Device Pipeline

variable {C : Type} [Channel C]

namespace Agent.Configuration

open Plane (handling Keeps)
open Telemetry (Packet)

variable {P : Type} [Telemetry.Publisher P] (c : Configuration)

/-- Where reports go, once a message has been dispatched: its packet makes a report if it can be
decoded. -/
def reported (outlets : Outlets P) : Message → Outlets P
  | .event (.packet content) =>
    match Packet.decode content.payload with
    | .ok packet => outlets.report c.nodeId packet
    | .error _ => outlets
  | _ => outlets

theorem telemetry_takes {content : PacketIn} {packet : Packet}
    (decoded : Packet.decode content.payload = .ok packet) (outlets : Outlets P) (channel : C) :
    let handled := handling (.packet content) (.telemetry (c.telemetry outlets) : Feature P) channel
    handled.value = (.telemetry (c.telemetry (outlets.report c.nodeId packet)), .ok true) ∧
    handled.state = channel := by
  cases result : (Telemetry.Publisher.publish (packet.topic c.nodeId) packet.flowKey.encode
      packet.toReport.encode outlets.publisher).value <;>
    simp [handling, Controller.handle, decoded, Telemetry.Controller.report, telemetry,
      Outlets.report, result, Action.debug, warn]

theorem telemetry_passes {event : Event}
    (foreign : ∀ content packet, event = .packet content →
      Packet.decode content.payload ≠ .ok packet)
    (t : Telemetry.Controller P) (channel : C) :
    (handling event (.telemetry t : Feature P) channel).value = (.telemetry t, .ok false) ∧
    (handling event (.telemetry t : Feature P) channel).state = channel := by
  cases event with
  | packet content =>
    cases result : Packet.decode content.payload with
    | error fault => simp [handling, Controller.handle, result, warn]
    | ok packet => exact absurd result (foreign content packet rfl)
  | _ => simp [handling, Controller.handle]

/-- An event is a packet that can be decoded, a digest of addresses, or of no feature's own. -/
theorem event_cases (event : Event) :
    (∃ content packet, event = .packet content ∧
      Packet.decode content.payload = .ok packet) ∨
    (∃ list, event = .digest list ∧ list.digestId = c.digestId) ∨
    ((∀ content packet, event = .packet content →
      Packet.decode content.payload ≠ .ok packet) ∧
      ∀ list, event = .digest list → list.digestId ≠ c.digestId) := by
  cases event with
  | packet content =>
    cases result : Packet.decode content.payload with
    | ok packet => exact Or.inl ⟨content, packet, rfl, result⟩
    | error fault =>
      refine Or.inr (Or.inr ⟨?_, nofun⟩)
      intro other packet same decoded
      cases same
      rw [result] at decoded
      cases decoded
  | digest list =>
    by_cases own : list.digestId = c.digestId
    · exact Or.inr (Or.inl ⟨list, rfl, own⟩)
    · refine Or.inr (Or.inr ⟨nofun, ?_⟩)
      intro other same
      cases same
      exact own
  | idleTimeout _ => exact Or.inr (Or.inr ⟨nofun, nofun⟩)
  | error _ => exact Or.inr (Or.inr ⟨nofun, nofun⟩)

/-- The features that an event gets to, the last of which takes it. -/
def asked (outlets : Outlets P) : Event → List (Feature P)
  | .packet content =>
    match Packet.decode content.payload with
    | .ok _ => [.telemetry (c.telemetry outlets)]
    | .error _ => (c.stack outlets).reverse
  | .digest list =>
    if list.digestId = c.digestId then [.telemetry (c.telemetry outlets), .learning c.learning]
    else (c.stack outlets).reverse
  | _ => (c.stack outlets).reverse

/-- What the feature that takes an event does with the channel. -/
def taking : Event → Action C (Except Fault Bool)
  | .digest list =>
    if list.digestId = c.digestId then Learning.Controller.learn list else pure (.ok true)
  | _ => pure (.ok true)

theorem taking_own {list : DigestList} (own : list.digestId = c.digestId) :
    (c.taking (.digest list) : Action C _) = Learning.Controller.learn list :=
  if_pos own

theorem taking_foreign {event : Event}
    (noDigest : ∀ list, event = .digest list → list.digestId ≠ c.digestId) :
    (c.taking event : Action C _) = pure (.ok true) := by
  cases event with
  | digest list => exact if_neg (noDigest list rfl)
  | _ => rfl

/-- An event that is of no feature's own goes down to the fallback. -/
theorem asked_foreign {event : Event}
    (noPacket : ∀ content packet, event = .packet content →
      Packet.decode content.payload ≠ .ok packet)
    (noDigest : ∀ list, event = .digest list → list.digestId ≠ c.digestId)
    (outlets : Outlets P) :
    c.asked outlets event = (c.stack outlets).reverse ∧
    c.reported outlets (.event event) = outlets := by
  cases event with
  | packet content =>
    cases result : Packet.decode content.payload with
    | ok packet => exact absurd result (noPacket content packet rfl)
    | error fault => simp [asked, reported, result]
  | digest list => simp [asked, reported, noDigest list rfl]
  | idleTimeout _ => exact ⟨rfl, rfl⟩
  | error _ => exact ⟨rfl, rfl⟩

/-- The way of an event through the features. -/
structure Course (event : Event) (outlets : Outlets P) (channel : C) (spared : List (Feature P)) :
    Prop where
  order : (c.stack outlets).reverse = c.asked outlets event ++ spared
  taken : HaltsLast Keeps (answers (handling event) (c.asked outlets event) channel)
  result : (answers (handling event) (c.asked outlets event) channel).getLast?.map Prod.snd =
    some (c.taking event channel).value
  left : after (handling event) (c.asked outlets event) channel = (c.taking event channel).state
  features : ((answers (handling event) (c.asked outlets event) channel).map Prod.fst ++
    spared).reverse = c.stack (c.reported outlets (.event event))

theorem course_of_packet {content : PacketIn} {packet : Packet}
    (decoded : Packet.decode content.payload = .ok packet) (outlets : Outlets P) (channel : C) :
    c.Course (.packet content) outlets channel [.learning c.learning, .fallback {}] := by
  obtain ⟨value, state⟩ := c.telemetry_takes decoded outlets channel
  have asked : c.asked outlets (.packet content) = [.telemetry (c.telemetry outlets)] := by
    simp [asked, decoded]
  have reported : c.reported outlets (.event (.packet content)) =
      outlets.report c.nodeId packet := by
    simp [reported, decoded]
  constructor <;> rw [asked]
  · rfl
  · exact ⟨[], _, rfl, nofun, by simp [Keeps, value]⟩
  · simp [answers, value, taking]
  · simp [after, state, taking]
  · simp [answers, value, reported, stack]

theorem course_of_digest {list : DigestList} (own : list.digestId = c.digestId)
    (outlets : Outlets P) (channel : C) :
    c.Course (.digest list) outlets channel [.fallback {}] := by
  have noPacket : ∀ content packet, Event.digest list = .packet content →
      Packet.decode content.payload ≠ .ok packet := nofun
  obtain ⟨passed, same⟩ := telemetry_passes noPacket (c.telemetry outlets) channel
  obtain ⟨value, state⟩ := Feature.learning_takes (P := P) (l := c.learning) own channel
  have asked : c.asked outlets (.digest list) =
      [.telemetry (c.telemetry outlets), .learning c.learning] := by
    simp [asked, own]
  constructor <;> rw [asked]
  · rfl
  · refine ⟨[_], _, rfl, ?_, ?_⟩
    · simp [Keeps, passed]
    · simp [Keeps, same, value, Learning.Controller.learn_taken]
  · simp [answers, same, value, c.taking_own own]
  · simp [after, same, state, c.taking_own own]
  · simp [answers, passed, same, value, reported, stack]

theorem course_of_foreign {event : Event}
    (noPacket : ∀ content packet, event = .packet content →
      Packet.decode content.payload ≠ .ok packet)
    (noDigest : ∀ list, event = .digest list → list.digestId ≠ c.digestId)
    (outlets : Outlets P) (channel : C) : c.Course event outlets channel [] := by
  obtain ⟨passed, same⟩ := telemetry_passes noPacket (c.telemetry outlets) channel
  obtain ⟨passedAgain, sameAgain⟩ :=
    Feature.learning_passes (P := P) (l := c.learning) noDigest channel
  obtain ⟨value, state⟩ := Feature.fallback_takes (P := P) event {} channel
  obtain ⟨asked, reported⟩ := c.asked_foreign noPacket noDigest outlets
  constructor <;> rw [asked]
  · exact (List.append_nil _).symm
  · refine ⟨[_, _], _, rfl, ?_, ?_⟩
    · simp [Keeps, passed, same, passedAgain]
    · simp [Keeps, same, sameAgain, value]
  · simp [answers, stack, same, sameAgain, value, c.taking_foreign noDigest]
  · simp [after, stack, same, sameAgain, state, c.taking_foreign noDigest]
  · simp [answers, stack, passed, same, passedAgain, sameAgain, value, reported]

theorem exists_course (event : Event) (outlets : Outlets P) (channel : C) :
    ∃ spared, c.Course event outlets channel spared := by
  rcases c.event_cases event with ⟨content, packet, rfl, decoded⟩ | ⟨list, rfl, own⟩ |
    ⟨noPacket, noDigest⟩
  · exact ⟨_, c.course_of_packet decoded outlets channel⟩
  · exact ⟨_, c.course_of_digest own outlets channel⟩
  · exact ⟨_, c.course_of_foreign noPacket noDigest outlets channel⟩

/-- An event leaves the plane with what its feature has done, and no fault shows but a fatal one of
that feature. -/
theorem dispatch_event_by_course (event : Event) (outlets : Outlets P) (channel : C) :
    let taken := c.taking event channel
    (Plane.dispatch (.event event) (c.plane outlets channel)).value =
      (Plane.settled taken.value).map (fun _ => ()) ∧
    (Plane.dispatch (.event event) (c.plane outlets channel)).state =
      c.plane (c.reported outlets (.event event)) taken.state := by
  obtain ⟨spared, course⟩ := c.exists_course event outlets channel
  have offered := Plane.offered_of_upTo (UpTo.mk course.order (Or.inl course.taken))
  have last := congrArg (Option.map Plane.settled) course.result
  obtain ⟨value, state⟩ := Plane.dispatch_event event (c.plane outlets channel)
  rw [Option.map_map] at last
  rw [value, state, plane_stack, plane_channel, offered.result, offered.channel,
    offered.controllers, course.left, course.features]
  exact ⟨congrArg (fun result => (result.getD (.ok false)).map fun _ => ()) last, rfl⟩

theorem dispatch_plane (message : Message) (outlets : Outlets P) (channel : C) :
    (Plane.dispatch message (c.plane outlets channel)).state =
      c.plane (c.reported outlets message)
        (Plane.dispatch message (c.plane outlets channel)).state.channel := by
  cases message with
  | arbitration update => rw [(Feature.dispatch_election update (c.plane outlets channel)).2]; rfl
  | event event => rw [(c.dispatch_event_by_course event outlets channel).2]; rfl
  | unknown => rfl

/-- Where reports go once something has happened. -/
def told (outlets : Outlets P) : Occasion → Outlets P
  | .message message => c.reported outlets message
  | .operation _ => outlets

/-- Whatever happens, the features are those of the configuration. -/
theorem after_undergo (history : List Occasion) (outlets : Outlets P) (channel : C) :
    after Plane.undergo history (c.plane outlets channel) =
      c.plane (history.foldl c.told outlets)
        (after Plane.undergo history (c.plane outlets channel)).channel := by
  induction history generalizing outlets channel with
  | nil => rfl
  | cons occasion rest ih =>
    cases occasion with
    | message message =>
      have first := c.dispatch_plane message outlets channel
      change after Plane.undergo rest (Plane.dispatch message (c.plane outlets channel)).state =
        c.plane (rest.foldl c.told (c.reported outlets message))
          (after Plane.undergo rest
            (Plane.dispatch message (c.plane outlets channel)).state).channel
      rw [first]
      exact ih (c.reported outlets message) _
    | operation operation => exact ih outlets (operation.perform channel).state

/-- Elections of this controller and digests of addresses make the agent use the switch. -/
def UsesSwitch : Message → Prop
  | .arbitration update => update.status.code = 0
  | .event (.digest list) => list.digestId = c.digestId
  | _ => False

theorem channel_of_unused {message : Message} (unused : ¬ c.UsesSwitch message)
    (outlets : Outlets P) (channel : C) :
    (Plane.dispatch message (c.plane outlets channel)).state.channel = channel := by
  cases message with
  | arbitration update =>
    have other : update.isPrimary = false :=
      eq_false_of_ne_true (unused ∘ Arbitration.isPrimary_iff.mp)
    rw [(Feature.dispatch_election update (c.plane outlets channel)).2, other]
    simp [after, Plane.afterInstall, show update.status.code ≠ 0 from unused]
  | event event =>
    rw [(c.dispatch_event_by_course event outlets channel).2]
    cases event with
    | digest list => simp [taking, show list.digestId ≠ c.digestId from unused]
    | _ => rfl
  | unknown => rfl

/-- A digest of addresses with an entry that is not one. -/
def Unreadable (message : Message) : Prop :=
  ∃ list, message = .event (.digest list) ∧ list.digestId = c.digestId ∧
    ∃ d ∈ list.data, ¬ Learning.Sighting.Shaped d

/-- An entry that cannot be read violates the protocol, before the channel is used. -/
theorem dispatch_unreadable {message : Message} (unreadable : c.Unreadable message)
    (outlets : Outlets P) (channel : C) :
    (∃ fault, (Plane.dispatch message (c.plane outlets channel)).value = .error fault ∧
      fault.kind = .protocol) ∧
    (Plane.dispatch message (c.plane outlets channel)).state = c.plane outlets channel := by
  obtain ⟨list, rfl, own, bad⟩ := unreadable
  obtain ⟨fails, kinds⟩ := Learning.Sighting.mapM_ofDatum list.data
  obtain ⟨fault, failed⟩ := fails.mpr bad
  obtain ⟨value, state⟩ := Learning.Controller.learn_refused failed channel
  obtain ⟨dispatched, left⟩ := c.dispatch_event_by_course (.digest list) outlets channel
  have kind := kinds fault failed
  have fatal : fault.isFatal = true := (Fault.isFatal_iff fault).mpr (Or.inr kind)
  rw [c.taking_own own] at dispatched left
  constructor
  · refine ⟨fault, ?_, kind⟩
    rw [dispatched, value]
    simp [Plane.settled, fatal, Except.map]
  · rw [left, state]
    rfl

/-- On a harmless channel everything else succeeds. -/
theorem dispatch_readable {message : Message} {channel : C} (harmless : Channel.Harmless channel)
    (readable : ¬ c.Unreadable message) (outlets : Outlets P) :
    (Plane.dispatch message (c.plane outlets channel)).value = .ok () := by
  cases message with
  | arbitration update => exact (Feature.dispatch_election update (c.plane outlets channel)).1
  | unknown => rfl
  | event event =>
    rw [(c.dispatch_event_by_course event outlets channel).1]
    by_cases own : ∃ list, event = .digest list ∧ list.digestId = c.digestId
    · obtain ⟨list, rfl, own⟩ := own
      have shaped : ∀ d ∈ list.data, Learning.Sighting.Shaped d := by
        intro d among
        refine Classical.byContradiction fun bad => ?_
        exact readable ⟨list, rfl, own, d, among, bad⟩
      rw [c.taking_own own, Learning.Controller.learn_settled harmless shaped]
      rfl
    · rw [c.taking_foreign fun list same id => own ⟨list, same, id⟩]
      rfl

/-- Whatever has happened on a harmless channel, each event is taken by exactly one feature, the
last that it gets to, and a packet makes one report if and only if it can be decoded. The channel is
used only for elections of this controller and digests of addresses, and a dispatch fails if and
only if such a digest has an entry that is not an address with a port. -/
theorem each_message_goes_to_its_feature (outlets : Outlets P) {channel : C}
    (harmless : Channel.Harmless channel) (history : List Occasion) (message : Message) :
    let plane := after Plane.undergo history (c.plane outlets channel)
    let routed := Plane.dispatch message plane
    let before := history.foldl c.told outlets
    plane.stack = c.stack before ∧
    routed.state.stack = c.stack (c.reported before message) ∧
    (∀ event, message = .event event →
      (∃ spared, UpTo (handling event) Keeps plane.stack.reverse plane.channel
        (c.asked before event) spared) ∧
      HaltsLast Keeps (answers (handling event) (c.asked before event) plane.channel)) ∧
    (¬ c.UsesSwitch message → routed.state.channel = plane.channel) ∧
    ((∃ fault, routed.value = .error fault) ↔ c.Unreadable message) ∧
    ∀ fault, routed.value = .error fault → fault.kind = .protocol ∧ routed.state = plane := by
  intro plane routed before
  have kept (operation : Operation) (other : C) (harmless : Channel.Harmless other) :
      Channel.Harmless (operation.perform other).state := harmless.performed operation
  have still : Channel.Harmless plane.channel :=
    Plane.history_keeps kept Feature.respected history harmless
  have shape : plane = c.plane before plane.channel := c.after_undergo history outlets channel
  generalize plane.channel = left at still shape
  subst routed
  rw [shape]
  refine ⟨rfl, ?_, ?_, ?_, ?_, ?_⟩
  · rw [c.dispatch_plane]
    rfl
  · intro event same
    obtain ⟨spared, course⟩ := c.exists_course event before left
    exact ⟨⟨spared, course.order, Or.inl course.taken⟩, course.taken⟩
  · intro unused
    exact c.channel_of_unused unused before left
  · constructor
    · rintro ⟨fault, failed⟩
      refine Classical.byContradiction fun readable => ?_
      rw [c.dispatch_readable still readable before] at failed
      cases failed
    · intro unreadable
      obtain ⟨⟨fault, failed, -⟩, -⟩ := c.dispatch_unreadable unreadable before left
      exact ⟨fault, failed⟩
  · intro fault failed
    by_cases unreadable : c.Unreadable message
    · obtain ⟨⟨other, same, kind⟩, state⟩ := c.dispatch_unreadable unreadable before left
      rw [failed] at same
      cases same
      exact ⟨kind, state⟩
    · rw [c.dispatch_readable still unreadable before] at failed
      cases failed

end Agent.Configuration

namespace Agent

/-- A switch with no ports, on which digest 5 reports addresses. -/
def portless : Configuration where
  catalog := ⟨{ counters := [⟨⟨7, "txCounter", ""⟩⟩], digests := [⟨⟨5, "macLearnMsg_t", ""⟩⟩] },
    .null⟩
  program := []
  profile := { ports := 0, linkUseEntries := 0 }
  host := ⟨1, 1⟩
  nodeId := 3
  rules := []
  digestId := 5
  counterId := 7
  digest := by decide
  counter := by decide

def refusingScript : Script where
  deviceId := 1
  electionId := 10
  policy := Refusals.policy { configure := true, write := true }

/-- A digest of one entry. -/
def digestOf (entry : Datum) : Message :=
  .event (.digest ⟨5, 1, [entry], 0⟩)

def address : Datum :=
  .struct [.bitstring [0, 0, 0, 0, 0, 1], .bitstring [0, 3]]

theorem only_bad_digest_fails_where_writes_are_refused :
    Channel.Harmless refusingScript ∧
    let outlets : Outlets Telemetry.LogPublisher := ⟨⟨"log", 0⟩, .disabled⟩
    let history := [Occasion.message (.arbitration ⟨1, .ofLow 10, ⟨0, ""⟩⟩),
      .message (digestOf (.bool true)), .operation .read]
    let plane := after Plane.undergo history (portless.plane outlets refusingScript)
    (∃ fault, (Plane.dispatch (digestOf (.bool true)) plane).value = .error fault) ∧
    ¬ ∃ fault, (Plane.dispatch (digestOf address) plane).value = .error fault := by
  have harmless : Channel.Harmless refusingScript := by
    apply Script.harmless
    intro past call fault failed
    cases call <;> cases failed <;> rfl
  have bad : portless.Unreadable (digestOf (.bool true)) := by
    refine ⟨_, rfl, rfl, .bool true, List.mem_singleton_self _, ?_⟩
    rintro ⟨mac, port, same, -⟩
    cases same
  have good : ¬ portless.Unreadable (digestOf address) := by
    rintro ⟨list, same, -, entry, among, bad⟩
    cases same
    cases List.mem_singleton.mp among
    exact bad ⟨_, _, rfl, rfl, rfl⟩
  refine ⟨harmless, ?_⟩
  intro outlets history plane
  obtain ⟨-, -, -, -, fails, -⟩ :=
    portless.each_message_goes_to_its_feature outlets harmless history (digestOf (.bool true))
  obtain ⟨-, -, -, -, failsAlso, -⟩ :=
    portless.each_message_goes_to_its_feature outlets harmless history (digestOf address)
  exact ⟨fails.mpr bad, mt failsAlso.mp good⟩

end Agent

end SwitchAgent
