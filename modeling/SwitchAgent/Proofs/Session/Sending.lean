import SwitchAgent.Proofs.Device.Requests
import SwitchAgent.Proofs.Json.Values
import SwitchAgent.Proofs.Session.Operation
import SwitchAgent.Proofs.Session.Speech

/-!
# What a session sends

Every operation but a reading sends one request, on a line of its own. The lines of what was sent
can be told apart by their line feeds alone, and each is read as the request that it was written of.
-/

namespace SwitchAgent.Pipeline

open Json

/-- The catalog was read from a text. -/
def Catalog.Loaded (catalog : Catalog) : Prop :=
  ∃ text, Catalog.ofText? text = some catalog

theorem Catalog.Loaded.exact {catalog : Catalog} (loaded : catalog.Loaded)
    (integral : catalog.document.Integral) : catalog.document.Exact := by
  obtain ⟨text, parsed⟩ := loaded
  obtain ⟨document, read, parsed⟩ := Option.bind_eq_some_iff.mp parsed
  obtain ⟨contents, -, same⟩ := Option.bind_eq_some_iff.mp parsed
  cases same
  exact exact_of_read read integral

/-- What can be written of a catalog is loaded again. -/
theorem Catalog.loaded_of_exact {contents : Contents} {document : Value} (exact : document.Exact)
    (shallow : document.nesting ≤ 127) (stands : readValue document = some contents) :
    Catalog.Loaded ⟨contents, document⟩ := by
  have read : Json.read document.text = some document :=
    (read_text_eq exact).trans (document.toValue?_toDocument exact 127 shallow)
  exact ⟨document.text, by simp [Catalog.ofText?, read, stands]⟩

end SwitchAgent.Pipeline

namespace SwitchAgent.Control

open Device Json Network Pipeline

/-- The request on a line. -/
def Line.request? (line : Line) : Option Request :=
  (Text.Utf8.decode line).bind Json.read

theorem Line.request?_ofValue {request : Request} (exact : request.Exact)
    (shallow : (encode request).nesting ≤ 127) :
    (Line.ofValue (encode request)).request? = some request := by
  rw [Line.request?, Line.ofValue, Text.Utf8.decode_encode, Option.bind_some]
  exact Request.read_write exact shallow

namespace LineSession

/-- Waiting leaves the ids and the link of a session alone. -/
structure Keeps (later session : LineSession) : Prop where
  deviceId : later.deviceId = session.deviceId
  electionId : later.electionId = session.electionId
  link : later.link = session.link

theorem Keeps.refl (session : LineSession) : Keeps session session :=
  ⟨rfl, rfl, rfl⟩

theorem awaitReply_keeps (lines : List Line) (session : LineSession) :
    Keeps (awaitReply lines session).state session := by
  induction lines using Line.byContent generalizing session with
  | nil => exact ⟨rfl, rfl, rfl⟩
  | broken line rest h ih =>
    rw [awaitReply_broken session rest h]
    exact ⟨rfl, rfl, rfl⟩
  | idle line rest h ih =>
    rw [awaitReply_idle session rest h]
    exact ih session
  | message line rest m h ih =>
    rw [awaitReply_message session rest h]
    have later := ih { session with pending := session.pending ++ [m] }
    exact ⟨later.deviceId, later.electionId, later.link⟩
  | reply line rest status h ih =>
    rw [awaitReply_reply session rest h]
    exact ⟨rfl, rfl, rfl⟩

theorem awaitMessage_keeps (lines : List Line) (session : LineSession) :
    Keeps (awaitMessage lines session).state session := by
  induction lines using Line.byContent with
  | nil => exact ⟨rfl, rfl, rfl⟩
  | broken line rest h ih =>
    rw [awaitMessage_broken session rest h]
    exact ⟨rfl, rfl, rfl⟩
  | idle line rest h ih =>
    rw [awaitMessage_idle session rest h]
    exact ih
  | message line rest m h ih =>
    rw [awaitMessage_message session rest h]
    exact ⟨rfl, rfl, rfl⟩
  | reply line rest status h ih =>
    rw [awaitMessage_reply session rest h]
    exact ih

theorem nextMessage_keeps (session : LineSession) :
    Keeps (nextMessage session).state session := by
  cases pending : session.pending with
  | cons m rest =>
    rw [nextMessage_pending pending]
    exact ⟨rfl, rfl, rfl⟩
  | nil =>
    cases closed : session.closed with
    | true =>
      rw [nextMessage_closed pending closed]
      exact Keeps.refl session
    | false =>
      rw [nextMessage_open pending closed]
      exact awaitMessage_keeps session.unread session

/-- A call sends its request first, whatever becomes of it then. -/
theorem call_keeps (request : Request) (session : LineSession) :
    Keeps (call request session).state
      { session with link := session.link.after (encodeRequest request) } := by
  cases accepts : session.link.accepts with
  | false =>
    rw [call_refused request accepts]
    exact Keeps.refl _
  | true =>
    rw [call_accepted request accepts]
    exact awaitReply_keeps session.unread _

end LineSession

namespace Operation

open LineSession

theorem perform_read_keeps (session : LineSession) :
    Keeps (perform read session).state session := by
  rw [perform_read]
  exact nextMessage_keeps session

/-- What an operation does to the other side is to send its request. -/
theorem perform_sends {operation : Operation} {request : Request} {session : LineSession}
    (sends : operation.request? session = some request) :
    Keeps (operation.perform session).state
      { session with link := session.link.after (encodeRequest request) } := by
  by_cases call : operation.IsCall
  · rw [perform_call call sends]
    exact call_keeps request session
  · rw [perform_signal call sends, send_apply]
    exact Keeps.refl _

theorem request?_eq_of_ids {one other : LineSession} (device : one.deviceId = other.deviceId)
    (election : one.electionId = other.electionId) (operation : Operation) :
    operation.request? one = operation.request? other := by
  cases operation <;> simp [request?, device, election]

/-- What a session sends for operations, if nothing is refused. -/
def requests (session : LineSession) (operations : List Operation) : List Request :=
  operations.filterMap fun operation => operation.request? session

theorem requests_eq_of_ids {one other : LineSession} (device : one.deviceId = other.deviceId)
    (election : one.electionId = other.electionId) (operations : List Operation) :
    requests one operations = requests other operations := by
  rw [requests, requests]
  exact congrArg (operations.filterMap ·) (funext (request?_eq_of_ids device election))

/-- The requests go out in their order, one write each. -/
theorem performAll_sends (operations : List Operation) (session : LineSession)
    (accepted : ∀ n < (requests session operations).length,
      session.link.refuses (session.link.count + n) = false) :
    (performAll operations session).state.link.written =
      session.link.written ++ (requests session operations).map encodeRequest := by
  induction operations generalizing session with
  | nil => exact (List.append_nil _).symm
  | cons operation rest ih =>
    rw [performAll_cons_state]
    rcases operation.kinds session with rfl | ⟨request, sends⟩
    · have kept := perform_read_keeps session
      have same : requests (perform read session).state rest = requests session (read :: rest) :=
        requests_eq_of_ids kept.deviceId kept.electionId rest
      have later := ih (perform read session).state
      rw [same, kept.link] at later
      exact later accepted
    · have kept := perform_sends sends
      have all : requests session (operation :: rest) = request :: requests session rest := by
        simp [requests, sends]
      have same : requests (operation.perform session).state rest = requests session rest :=
        requests_eq_of_ids kept.deviceId kept.electionId rest
      have later := ih (operation.perform session).state
      rw [all] at accepted ⊢
      have now : session.link.accepts = true := by
        have first := accepted 0 (Nat.succ_pos _)
        simpa [Link.accepts] using first
      rw [same, kept.link] at later
      simp only [Link.after, now, if_true] at later
      rw [later, List.append_assoc]
      · rfl
      · intro n below
        rw [Nat.add_right_comm]
        exact accepted (n + 1) (Nat.succ_lt_succ below)

theorem exact_of_mem_requests {session : LineSession} {operations : List Operation}
    (loaded : ∀ catalog program, configure catalog program ∈ operations →
      catalog.Loaded ∧ catalog.document.Integral)
    {request : Request} (among : request ∈ requests session operations) : request.Exact := by
  obtain ⟨operation, given, sends⟩ := List.mem_filterMap.mp among
  cases operation with
  | announce => cases sends; trivial
  | configure catalog program =>
    cases sends
    obtain ⟨parsed, integral⟩ := loaded catalog program given
    exact parsed.exact integral
  | write request => cases sends; trivial
  | acknowledge digestId listId => cases sends; trivial
  | read => cases sends

/-- What a session says for requests. -/
def spoken (requests : List Request) : List Sentence :=
  requests.map fun request => Sentence.ofValue (encode request)

theorem wire_spoken (requests : List Request) :
    Sentence.wire (spoken requests) = (requests.map encodeRequest).flatten := by
  rw [Sentence.wire, spoken, List.flatMap_map]
  rfl

theorem split_wire_spoken (requests : List Request) :
    Line.split (Sentence.wire (spoken requests)) =
      requests.map fun request => Line.ofValue (encode request) := by
  rw [Sentence.split_wire, Sentence.lines, spoken, List.map_map]
  refine List.map_congr_left fun request _ => ?_
  rw [Function.comp_apply, Sentence.line_ofValue]

/-- What operations send to a switch that refuses nothing is cut into its lines by line feeds alone,
and the lines are read as the requests of the operations, in their order. -/
theorem sent_lines_read_as_requests (session : LineSession) (operations : List Operation)
    (loaded : ∀ catalog program, configure catalog program ∈ operations →
      catalog.Loaded ∧ catalog.document.Integral)
    (shallow : ∀ request ∈ requests session operations, (encode request).nesting ≤ 127)
    (accepted : ∀ n < (requests session operations).length,
      session.link.refuses (session.link.count + n) = false) :
    ∃ sent,
      (performAll operations session).state.link.delivered = session.link.delivered ++ sent ∧
      sent = (Line.split sent).flatMap (· ++ [0x0a]) ∧
      (∀ line ∈ Line.split sent, 0x0a ∉ line) ∧
      (Line.split sent).map Line.request? = (requests session operations).map some := by
  have written := performAll_sends operations session accepted
  have lines := split_wire_spoken (requests session operations)
  refine ⟨Sentence.wire (spoken (requests session operations)), ?_, ?_, ?_, ?_⟩
  · rw [Link.delivered, written, List.flatten_append, wire_spoken]
    rfl
  · rw [lines, List.flatMap_map, wire_spoken, ← List.flatMap_def]
    rfl
  · intro line among
    rw [lines] at among
    obtain ⟨request, -, rfl⟩ := List.mem_map.mp among
    exact Line.feed_not_mem_ofValue (encode request)
  · rw [lines, List.map_map]
    refine List.map_congr_left fun request among => ?_
    rw [Function.comp_apply]
    exact Line.request?_ofValue (exact_of_mem_requests loaded among) (shallow request among)

/-- A catalog with a line feed in a name. -/
def brokenName : Catalog :=
  ⟨{}, .object [("pkgInfo", .object [("name", .string "one\ntwo")])]⟩

theorem brokenName_loaded : brokenName.Loaded := by
  refine Catalog.loaded_of_exact ?_ (by decide) rfl
  exact ⟨by simp, ⟨by simp, trivial, trivial⟩, trivial⟩

theorem line_feed_in_name_sent_on_one_line :
    let session := LineSession.ofIncoming 1 10 []
    let operations := [announce, configure brokenName [7], read, acknowledge 5 2]
    ∃ sent,
      (performAll operations session).state.link.delivered = sent ∧
      (Line.split sent).map Line.request? =
        [some (.arbitration 1 ⟨0, 10⟩), some (.setPipeline 1 ⟨0, 10⟩ brokenName.document [7]),
          some (.acknowledge 5 2)] := by
  intro session operations
  have loaded : ∀ catalog program, configure catalog program ∈ operations →
      catalog.Loaded ∧ catalog.document.Integral := by
    intro catalog program given
    simp only [operations, List.mem_cons, List.not_mem_nil, or_false, reduceCtorEq, false_or,
      configure.injEq] at given
    obtain ⟨rfl, rfl⟩ := given
    exact ⟨brokenName_loaded, ⟨⟨trivial, trivial⟩, trivial⟩⟩
  have shallow : ∀ request ∈ requests session operations, (encode request).nesting ≤ 127 := by
    decide
  have asked : requests session operations = [.arbitration 1 ⟨0, 10⟩,
      .setPipeline 1 ⟨0, 10⟩ brokenName.document [7], .acknowledge 5 2] := rfl
  obtain ⟨sent, delivered, -, -, readBack⟩ :=
    sent_lines_read_as_requests session operations loaded shallow fun _ _ => rfl
  rw [asked] at readBack
  exact ⟨sent, delivered, readBack⟩

end Operation

end SwitchAgent.Control
