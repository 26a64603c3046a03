import SwitchAgent.Proofs.Agent.Routing
import SwitchAgent.Proofs.Agent.Startup
import SwitchAgent.Proofs.Session.Following

/-!
# What the process exits with

A process that cannot start exits with 1 and has sent nothing. One that has started announces itself
first. As long as the switch sends text, only a digest of addresses that cannot be read makes it
fail then: replies, junk, refused writes and an early end of the stream do not.
-/

namespace SwitchAgent.Agent

open SwitchAgent.Action Control Device Json Network

section Endings

variable {plane : AgentPlane} {result : Option (Except Fault Unit)}

theorem exitCode_ofPlane_ok (passed : result = some (.ok ())) :
    (Ending.ofPlane plane result).exitCode = 0 := by
  rw [passed]
  rfl

theorem exitCode_ofPlane_error {fault : Fault} (failed : result = some (.error fault)) :
    (Ending.ofPlane plane result).exitCode = 1 := by
  rw [failed]
  rfl

end Endings

namespace Configuration

open Plane (serve IsFatal not_isFatal_ok)

variable {P : Type} [Telemetry.Publisher P] (c : Configuration)

/-- Serving a message leaves the features of the configuration. -/
theorem serve_plane (message : Message) (outlets : Outlets P) (session : LineSession)
    (phase : Phase) :
    let dispatched := Plane.dispatch message (c.plane outlets (Channel.read session).state)
    let served := serve message { c.plane outlets session with phase }
    served.value = dispatched.value ∧
    served.state = { c.plane (c.reported outlets message) dispatched.state.channel with phase } := by
  intro dispatched served
  obtain ⟨value, state⟩ := Plane.dispatch_phase message
    (c.plane outlets (Channel.read session).state) phase
  have left : dispatched.state = c.plane (c.reported outlets message) dispatched.state.channel :=
    c.dispatch_plane message outlets (Channel.read session).state
  exact ⟨value, state.trans (congrArg (fun plane => { plane with phase }) left)⟩

theorem serve_readable {message : Message} (readable : ¬ c.Unreadable message)
    (outlets : Outlets P) (session : LineSession) (phase : Phase) :
    (serve message { c.plane outlets session with phase }).value = .ok () := by
  have harmless := LineSession.harmless (Channel.read session).state
  exact (c.serve_plane message outlets session phase).1.trans
    (c.dispatch_readable harmless readable outlets)

theorem serve_unreadable {message : Message} (unreadable : c.Unreadable message)
    (outlets : Outlets P) (session : LineSession) (phase : Phase) :
    ∃ fault, fault.kind = .protocol ∧
      (serve message { c.plane outlets session with phase }).value = .error fault := by
  obtain ⟨⟨fault, failed, kind⟩, -⟩ :=
    c.dispatch_unreadable unreadable outlets (Channel.read session).state
  exact ⟨fault, kind, (c.serve_plane message outlets session phase).1.trans failed⟩

theorem answers_readable {messages : List Message}
    (readable : ∀ message ∈ messages, ¬ c.Unreadable message) (outlets : Outlets P)
    (session : LineSession) (phase : Phase) :
    ∀ answer ∈ answers serve messages { c.plane outlets session with phase }, answer = .ok () := by
  induction messages generalizing outlets session with
  | nil => exact nofun
  | cons message rest ih =>
    obtain ⟨first, others⟩ := List.forall_mem_cons.mp readable
    intro answer among
    rw [answers, (c.serve_plane message outlets session phase).2] at among
    rcases List.mem_cons.mp among with same | later
    · exact same.trans (c.serve_readable first outlets session phase)
    · exact ih others _ _ answer later

/-- Messages are served up to the first that cannot be read. -/
theorem upTo_unreadable {before : List Message} {message : Message}
    (readable : ∀ earlier ∈ before, ¬ c.Unreadable earlier) (unreadable : c.Unreadable message)
    (after : List Message) (outlets : Outlets P) (session : LineSession) (phase : Phase) :
    let plane := { c.plane outlets session with phase }
    UpTo serve IsFatal (before ++ message :: after) plane (before ++ [message]) after ∧
    ∃ fault, .error fault ∈ answers serve (before ++ [message]) plane := by
  induction before generalizing outlets session with
  | nil =>
    obtain ⟨fault, kind, value⟩ := c.serve_unreadable unreadable outlets session phase
    constructor
    · exact .halted ⟨fault, value, Or.inr kind⟩ after
    · refine ⟨fault, ?_⟩
      rw [List.nil_append, answers, value]
      exact List.mem_cons_self
  | cons first rest ih =>
    obtain ⟨now, others⟩ := List.forall_mem_cons.mp readable
    obtain ⟨upTo, fault, failed⟩ := ih others (c.reported outlets first)
      (Plane.dispatch first (c.plane outlets (Channel.read session).state)).state.channel
    rw [← (c.serve_plane first outlets session phase).2] at upTo failed
    constructor
    · refine .cons ?_ upTo
      rw [c.serve_readable now outlets session phase]
      exact not_isFatal_ok ()
    · exact ⟨fault, List.mem_cons_of_mem _ failed⟩

theorem dispatch_outlets {C : Type} [Channel C] (message : Message) (one other : Outlets P)
    (channel : C) :
    (Plane.dispatch message (c.plane one channel)).value =
      (Plane.dispatch message (c.plane other channel)).value ∧
    (Plane.dispatch message (c.plane one channel)).state.channel =
      (Plane.dispatch message (c.plane other channel)).state.channel := by
  cases message with
  | arbitration update =>
    obtain ⟨value, state⟩ := Feature.dispatch_election update (c.plane one channel)
    obtain ⟨value', state'⟩ := Feature.dispatch_election update (c.plane other channel)
    rw [value, value', state, state']
    exact ⟨rfl, rfl⟩
  | event event =>
    obtain ⟨value, state⟩ := c.dispatch_event_by_course event one channel
    obtain ⟨value', state'⟩ := c.dispatch_event_by_course event other channel
    rw [value, value', state, state']
    exact ⟨rfl, rfl⟩
  | unknown => exact ⟨rfl, rfl⟩

theorem follow_outlets (limit : Nat) (one other : Outlets P) (session : LineSession)
    (phase : Phase) :
    (Plane.follow limit { c.plane one session with phase }).value =
      (Plane.follow limit { c.plane other session with phase }).value := by
  -- Reports part the two planes at the first packet, so each has outlets of its own from then on.
  induction limit generalizing one other session with
  | zero => rfl
  | succ limit ih =>
    cases read : (Channel.read session).value with
    | error fault =>
      have fails (outlets : Outlets P) :
          (Channel.read (Plane.channel { c.plane outlets session with phase })).value =
            .error fault := read
      rw [(Plane.follow_failed (fails one) limit).2.1, (Plane.follow_failed (fails other) limit).2.1]
    | ok message =>
      cases message with
      | none =>
        have ends (outlets : Outlets P) :
            (Channel.read (Plane.channel { c.plane outlets session with phase })).value =
              .ok none := read
        rw [(Plane.follow_closed (ends one) limit).2.1, (Plane.follow_closed (ends other) limit).2.1]
      | some message =>
        have hands (outlets : Outlets P) :
            (Channel.read (Plane.channel { c.plane outlets session with phase })).value =
              .ok (some message) := read
        obtain ⟨value, state⟩ := c.serve_plane message one session phase
        obtain ⟨value', state'⟩ := c.serve_plane message other session phase
        obtain ⟨same, left⟩ := c.dispatch_outlets message one other (Channel.read session).state
        cases result : (Plane.dispatch message (c.plane one (Channel.read session).state)).value with
        | error fault =>
          rw [(Plane.follow_stopped (hands one) (value.trans result) limit).2.1,
            (Plane.follow_stopped (hands other) (value'.trans (same.symm.trans result)) limit).2.1]
        | ok _ =>
          rw [(Plane.follow_served (hands one) (value.trans result) limit).2.1,
            (Plane.follow_served (hands other) (value'.trans (same.symm.trans result)) limit).2.1,
            state, state', left]
          exact ih _ _ _

section Run

variable (outlets : Outlets P) {session : LineSession}

theorem served_of_legible (legible : session.Legible) (accepts : session.link.accepts = true) :
    ∃ unread, Plane.Served (session.horizon + 1) session.undelivered (.ok ())
      (c.plane outlets session) unread := by
  have begun : (c.plane outlets session).announced.channel.Legible ∧
      (c.plane outlets session).announced.channel.undelivered = session.undelivered :=
    LineSession.announce_legible legible
  have streams := LineSession.streams_of_legible Feature.respected begun.1
  rw [begun.2] at streams
  exact streams.served (LineSession.announce_accepted accepts)
    (Nat.lt_succ_of_le session.length_undelivered_le)

/-- What was sent begins with the announcement. -/
theorem sent_announcement (fresh : session.link.written = [])
    (accepts : session.link.accepts = true) (limit : Nat) :
    ∃ line lines, Line.split
        (Plane.run limit (c.plane outlets session)).state.channel.link.delivered = line :: lines ∧
      line.request? = some session.announcement := by
  have accepted : (Channel.announce (c.plane outlets session).channel).value = .ok () :=
    LineSession.announce_accepted accepts
  have begun : LineSession.SentFirst (LineSession.encodeRequest session.announcement)
      (Channel.announce (c.plane outlets session).channel).state :=
    LineSession.announce_sentFirst accepts fresh
  obtain ⟨more, written⟩ := Plane.run_keeps LineSession.perform_sentFirst Feature.respected
    accepted begun limit
  -- The announcement holds no line feed of its own, so its line is the first.
  have line := Line.split_cons_line _ more.flatten
    (Line.feed_not_mem_ofValue (encode session.announcement))
  rw [Line.withoutReturn_ofValue] at line
  refine ⟨_, Line.split more.flatten, ?_, session.request?_announcement⟩
  rw [← line, Link.delivered, written, List.flatten_cons, LineSession.encodeRequest,
    List.append_assoc]
  rfl

/-- The announcement goes out or the run fails, whatever becomes of the reports. -/
theorem run_outlets (limit : Nat) (one other : Outlets P) :
    (Plane.run limit (c.plane one session)).value =
      (Plane.run limit (c.plane other session)).value := by
  cases announced : (Channel.announce session).value with
  | error fault =>
    have fails (outlets : Outlets P) :
        (Channel.announce (c.plane outlets session).channel).value = .error fault := announced
    rw [(Plane.run_refused (fails one) limit).2.1, (Plane.run_refused (fails other) limit).2.1]
  | ok _ =>
    have begins (outlets : Outlets P) :
        (Channel.announce (c.plane outlets session).channel).value = .ok () := announced
    rw [(Plane.run_begun (begins one) limit).2.1, (Plane.run_begun (begins other) limit).2.1]
    exact c.follow_outlets limit one other _ _

/-- If every message can be read, all of them are dispatched and the run ends well. -/
theorem run_readable (legible : session.Legible) (accepts : session.link.accepts = true)
    (readable : ∀ message ∈ session.undelivered, ¬ c.Unreadable message) :
    (Plane.run (session.horizon + 1) (c.plane outlets session)).value = some (.ok ()) ∧
    Plane.heard (session.horizon + 1) (c.plane outlets session) = session.undelivered := by
  obtain ⟨unread, served⟩ := c.served_of_legible outlets legible accepts
  have passed := c.answers_readable readable outlets (Channel.announce session).state .running
  have harmless : ∀ answer ∈ answers serve session.undelivered
      (c.plane outlets session).announced, ¬ IsFatal answer := by
    intro answer among
    rw [passed answer among]
    exact not_isFatal_ok ()
  obtain ⟨heard, -⟩ := served.upTo.unique (UpTo.whole harmless)
  refine ⟨(served.ended ?_).1, heard⟩
  rw [heard]
  exact passed

/-- The first message that cannot be read is the last that is dispatched, and the run fails. -/
theorem run_unreadable (legible : session.Legible) (accepts : session.link.accepts = true)
    {before after : List Message} {message : Message}
    (waiting : session.undelivered = before ++ message :: after)
    (readable : ∀ earlier ∈ before, ¬ c.Unreadable earlier) (unreadable : c.Unreadable message) :
    (∃ fault, (Plane.run (session.horizon + 1) (c.plane outlets session)).value =
      some (.error fault)) ∧
    Plane.heard (session.horizon + 1) (c.plane outlets session) = before ++ [message] := by
  obtain ⟨unread, served⟩ := c.served_of_legible outlets legible accepts
  obtain ⟨upTo, fault, failed⟩ := c.upTo_unreadable readable unreadable after outlets
    (Channel.announce session).state .running
  rw [← waiting] at upTo
  obtain ⟨heard, -⟩ := served.upTo.unique upTo
  refine ⟨⟨fault, (served.stopped fault ?_).1⟩, heard⟩
  rw [heard]
  exact failed

end Run

/-- How a run of the agent comes to its end, once it has announced itself. -/
structure Concludes (line : CommandLine) (incoming : List UInt8) (limit : Nat) (plane : AgentPlane)
    (ending : Ending) : Prop where
  announced : ∃ first lines, Line.split ending.sent = first :: lines ∧
    first.request? = some (.arbitration line.deviceId (.ofLow line.electionId))
  readable : (∀ l ∈ Line.split incoming, l.IsText) →
    (∀ message ∈ messagesIn (Line.split incoming), ¬ c.Unreadable message) →
      (Plane.run limit plane).value = some (.ok ()) ∧ ending.exitCode = 0 ∧
      Plane.heard limit plane = messagesIn (Line.split incoming)
  unreadable : (∀ l ∈ Line.split incoming, l.IsText) →
    (∃ message ∈ messagesIn (Line.split incoming), c.Unreadable message) →
      ending.exitCode = 1 ∧
      ∃ before message after, messagesIn (Line.split incoming) = before ++ message :: after ∧
        (∀ earlier ∈ before, ¬ c.Unreadable earlier) ∧ c.Unreadable message ∧
        Plane.heard limit plane = before ++ [message]

theorem concludes (line : CommandLine) (incoming : List UInt8) {refuses : Nat → Bool}
    (outlets : Outlets Telemetry.BrokerPublisher) (accepted : refuses 0 = false) :
    let session := LineSession.opened line.deviceId line.electionId incoming { refuses }
    let plane := c.plane outlets session
    let runs := Plane.run (session.horizon + 1) plane
    c.Concludes line incoming (session.horizon + 1) plane (.ofPlane runs.state runs.value) := by
  intro session plane runs
  have accepts : session.link.accepts = true := by
    simpa [Link.accepts, session, LineSession.opened] using accepted
  have legible (text : ∀ l ∈ Line.split incoming, l.IsText) : session.Legible :=
    LineSession.opened_legible line.deviceId line.electionId { refuses } text
  constructor
  case announced => exact c.sent_announcement outlets rfl accepts _
  case readable =>
    intro text readable
    obtain ⟨value, heard⟩ := c.run_readable outlets (legible text) accepts readable
    exact ⟨value, exitCode_ofPlane_ok value, heard⟩
  case unreadable =>
    rintro text ⟨message, among, bad⟩
    classical
    have some : ((messagesIn (Line.split incoming)).find? fun m => c.Unreadable m).isSome :=
      List.find?_isSome.mpr ⟨message, among, decide_eq_true bad⟩
    obtain ⟨first, found⟩ := Option.isSome_iff_exists.mp some
    obtain ⟨unreadable, before, after, waiting, readable⟩ :=
      List.find?_eq_some_iff_append.mp found
    simp only [decide_eq_true_eq, Bool.not_eq_true', decide_eq_false_iff_not] at unreadable readable
    obtain ⟨⟨fault, value⟩, heard⟩ :=
      c.run_unreadable outlets (legible text) accepts waiting readable unreadable
    exact ⟨exitCode_ofPlane_error value, before, first, after, waiting, readable, unreadable, heard⟩

end Configuration

variable {σ : Type} {line : CommandLine} {world : World}

/-- The address of the server for reports is not looked at. -/
theorem starts_reportAddress (address : Option String) {c : Configuration} {incoming : List UInt8}
    {refuses : Nat → Bool} :
    Starts { line with reportAddress := address } world c incoming refuses ↔
      Starts line world c incoming refuses := by
  constructor
  all_goals
    rintro ⟨inputs, ⟨settings, catalog, program, rules⟩, prepares⟩
    exact ⟨inputs, ⟨settings, catalog, program, rules⟩,
      ⟨prepares.catalog, prepares.program, prepares.profile, prepares.rules, prepares.connection,
        prepares.host, prepares.nodeId⟩⟩

theorem obstacle_reportAddress (address : Option String) :
    Obstacle { line with reportAddress := address } world ↔ Obstacle line world := by
  simp only [obstacle_iff, starts_reportAddress]

theorem exitCode_reportAddress (noBroker : line.broker = "") (address : Option String) (s : σ) :
    (run { line with reportAddress := address } world s).value.exitCode =
      (run line world s).value.exitCode := by
  have noBrokerToo : ({ line with reportAddress := address } : CommandLine).broker = "" := noBroker
  by_cases obstacle : Obstacle line world
  · have same : Obstacle { line with reportAddress := address } world :=
      (obstacle_reportAddress address).mpr obstacle
    rw [(run_of_obstacle noBroker obstacle s).1, (run_of_obstacle noBrokerToo same s).1]
  · obtain ⟨c, incoming, refuses, starts⟩ := exists_starts obstacle
    have same := (starts_reportAddress address).mpr starts
    rw [run_of_starts noBroker starts s, run_of_starts noBrokerToo same s]
    dsimp only [Ending.exitCode, Ending.ofPlane]
    rw [c.run_outlets]

/-- A command line without a broker. -/
def localLine (settings : Option String) : CommandLine where
  settings := settings
  catalog := "p4info"
  program := "config"
  switchAddress := "switch:9559"
  deviceId := 1
  electionId := 10
  asAddress := "1-110"
  nodeId := 3
  rules := "rules"
  broker := ""
  reportAddress := some "nobody"

def localArguments : List String :=
  ["p4info", "config", "switch:9559", "1", "10", "1-110", "3", "rules", "", "nobody"]

def localCatalog : String :=
  "\x7b\"counters\":[\x7b\"preamble\":\x7b\"id\":6,\"name\":\"txCounter\"\x7d\x7d]," ++
  "\"digests\":[\x7b\"preamble\":\x7b\"id\":5,\"name\":\"macLearnMsg_t\"\x7d\x7d]\x7d"

/-- The same settings stand in two files, one of which has no extension that is known. -/
def localFiles : Files :=
  let settings := Text.Utf8.encode "cpu_port = 5\n"
  ((((Files.empty.insert "p4info" (Text.Utf8.encode localCatalog)).insert "config" []).insert
    "rules" []).insert "p4cp.toml" settings).insert "p4cp.conf" settings

/-- Nobody is there but the switch. -/
def localWorld (incoming : List UInt8) : World where
  files := localFiles
  environment := []
  network endpoint := if endpoint.host = "switch" then .accepted incoming else .refused "nobody"

theorem localCatalog_ids : (Pipeline.Catalog.ofText? localCatalog).map (fun catalog =>
    (catalog.digestId Learning.Controller.digestName,
      catalog.counterId Telemetry.Controller.counterName)) = some (some 5, some 6) := by
  decide +kernel

theorem text_localFiles : localFiles.text "p4info" = .ok localCatalog := by
  decide +kernel

theorem exists_starts_localWorld (path : Option String) (incoming : List UInt8)
    (loads : (Settings.load localFiles path []).isSome) :
    ∃ c, Starts (localLine path) (localWorld incoming) c incoming fun _ => false := by
  obtain ⟨catalog, parsed, ids⟩ := Option.map_eq_some_iff.mp localCatalog_ids
  obtain ⟨digest, counter⟩ := Prod.mk.inj ids
  obtain ⟨settings, loaded⟩ := Option.isSome_iff_exists.mp loads
  have address : Endpoint.ofSocketAddress "switch:9559" = .ok ⟨"switch", 9559⟩ := by
    decide +kernel
  have noRules : localFiles.text "rules" = .ok "" := by decide +kernel
  have host : IsdAs.parse "1-110" = .ok ⟨1, 0x110⟩ := by decide +kernel
  exact ⟨⟨catalog, [], settings.profile, ⟨1, 0x110⟩, 3, [], 5, 6, digest, counter⟩,
    ⟨settings, catalog, [], []⟩,
    ⟨loaded, ⟨localCatalog, text_localFiles, parsed⟩, rfl, ⟨"", noRules, rfl⟩⟩,
    ⟨rfl, rfl, rfl, rfl, ⟨_, address, rfl⟩, host, rfl⟩⟩

theorem of_starts_localWorld {path : Option String} {incoming given : List UInt8}
    {refuses : Nat → Bool} {c : Configuration}
    (starts : Starts (localLine path) (localWorld incoming) c given refuses) :
    given = incoming ∧ refuses 0 = false ∧ c.digestId = 5 := by
  obtain ⟨inputs, ⟨-, ⟨text, read, parsed⟩, -, -⟩, same, -, -, -, ⟨endpoint, split, reached⟩, -⟩ :=
    starts
  rw [← same] at parsed
  have address : Endpoint.ofSocketAddress "switch:9559" = .ok ⟨"switch", 9559⟩ := by
    decide +kernel
  cases address.symm.trans split
  cases reached
  cases text_localFiles.symm.trans read
  obtain ⟨catalog, known, ids⟩ := Option.map_eq_some_iff.mp localCatalog_ids
  cases known.symm.trans parsed
  exact ⟨rfl, rfl, Option.some.inj (c.digest.symm.trans (Prod.mk.inj ids).1)⟩

/-- What the switch says. Its digest has an entry that is no address. -/
def misshapen : Utterance :=
  .ofMessage (.event (.digest ⟨5, 2, [.bool true], 0⟩)) (by decide)

end SwitchAgent.Agent
