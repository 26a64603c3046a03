import SwitchAgent.Proofs.Session.Delivery

/-!
# Noise on a session

Lines that say nothing may stand anywhere in the stream: no operation comes out otherwise. This
holds of text only. Bytes that are no text make the operation that meets them fail, so the calls
after it take each other's replies.
-/

namespace SwitchAgent.Control

open Device Network

/-- The line is text that says nothing. -/
def Content.isIdle : Content → Bool
  | blank | junk => true
  | _ => false

theorem Content.isIdle_iff (content : Content) :
    content.isIdle = true ↔ content = .blank ∨ content = .junk := by
  cases content <;> simp [isIdle]

/-- The lines that matter to a session. -/
def significant (lines : List Line) : List Line :=
  lines.filter fun line => !line.content.isIdle

theorem significant_cons_idle {line : Line} (rest : List Line)
    (h : line.content = .blank ∨ line.content = .junk) :
    significant (line :: rest) = significant rest := by
  simp [significant, (Content.isIdle_iff _).mpr h]

theorem significant_cons {line : Line} (rest : List Line) (h : line.content.isIdle = false) :
    significant (line :: rest) = line :: significant rest := by
  simp [significant, h]

namespace LineSession

/-- The session without the lines that say nothing. -/
def quiet (session : LineSession) : LineSession :=
  { session with unread := significant session.unread }

theorem awaitReply_significant (lines : List Line) (session : LineSession) :
    (awaitReply (significant lines) session.quiet).value = (awaitReply lines session).value ∧
      (awaitReply (significant lines) session.quiet).state =
        (awaitReply lines session).state.quiet := by
  induction lines using Line.byContent generalizing session with
  | nil => exact ⟨rfl, rfl⟩
  | broken line rest h ih =>
    rw [significant_cons rest (by rw [h]; rfl), awaitReply_broken _ _ h,
      awaitReply_broken _ _ h]
    exact ⟨rfl, rfl⟩
  | idle line rest h ih =>
    rw [significant_cons_idle rest h, awaitReply_idle session rest h]
    exact ih session
  | message line rest m h ih =>
    rw [significant_cons rest (by rw [h]; rfl), awaitReply_message _ _ h,
      awaitReply_message _ _ h]
    exact ih { session with pending := session.pending ++ [m] }
  | reply line rest status h ih =>
    rw [significant_cons rest (by rw [h]; rfl), awaitReply_reply _ _ h,
      awaitReply_reply _ _ h]
    exact ⟨rfl, rfl⟩

theorem awaitMessage_significant (lines : List Line) (session : LineSession) :
    (awaitMessage (significant lines) session.quiet).value = (awaitMessage lines session).value ∧
      (awaitMessage (significant lines) session.quiet).state =
        (awaitMessage lines session).state.quiet := by
  induction lines using Line.byContent with
  | nil => exact ⟨rfl, rfl⟩
  | broken line rest h ih =>
    rw [significant_cons rest (by rw [h]; rfl), awaitMessage_broken _ _ h,
      awaitMessage_broken _ _ h]
    exact ⟨rfl, rfl⟩
  | idle line rest h ih =>
    rw [significant_cons_idle rest h, awaitMessage_idle session rest h]
    exact ih
  | message line rest m h ih =>
    rw [significant_cons rest (by rw [h]; rfl), awaitMessage_message _ _ h,
      awaitMessage_message _ _ h]
    exact ⟨rfl, rfl⟩
  | reply line rest status h ih =>
    rw [significant_cons rest (by rw [h]; rfl), awaitMessage_reply _ _ h,
      awaitMessage_reply _ _ h]
    exact ih

theorem call_quiet (request : Request) (session : LineSession) :
    (call request session.quiet).value = (call request session).value ∧
      (call request session.quiet).state = (call request session).state.quiet := by
  cases accepts : session.link.accepts with
  | false =>
    have refused : session.quiet.link.accepts = false := accepts
    rw [call_refused request accepts, call_refused request refused]
    exact ⟨rfl, rfl⟩
  | true =>
    have accepted : session.quiet.link.accepts = true := accepts
    rw [call_accepted request accepts, call_accepted request accepted]
    exact awaitReply_significant session.unread
      { session with link := session.link.after (encodeRequest request) }

theorem nextMessage_quiet (session : LineSession) :
    (nextMessage session.quiet).value = (nextMessage session).value ∧
      (nextMessage session.quiet).state = (nextMessage session).state.quiet := by
  cases pending : session.pending with
  | cons m rest =>
    have same : session.quiet.pending = m :: rest := pending
    rw [nextMessage_pending pending, nextMessage_pending same]
    exact ⟨rfl, rfl⟩
  | nil =>
    have same : session.quiet.pending = [] := pending
    cases closed : session.closed with
    | true =>
      have ended : session.quiet.closed = true := closed
      rw [nextMessage_closed pending closed, nextMessage_closed same ended]
      exact ⟨rfl, rfl⟩
    | false =>
      have ended : session.quiet.closed = false := closed
      rw [nextMessage_open pending closed, nextMessage_open same ended]
      exact awaitMessage_significant session.unread session

end LineSession

namespace Operation

open LineSession

theorem perform_quiet (operation : Operation) (session : LineSession) :
    (operation.perform session.quiet).value = (operation.perform session).value ∧
      (operation.perform session.quiet).state = (operation.perform session).state.quiet := by
  rcases operation.kinds session with rfl | ⟨request, sends⟩
  · rw [perform_read, perform_read]
    have same := nextMessage_quiet session
    exact ⟨congrArg Answer.got same.1, same.2⟩
  · have quietly : operation.request? session.quiet = some request := by
      rw [← sends]
      cases operation <;> rfl
    by_cases call : operation.IsCall
    · rw [perform_call call sends, perform_call call quietly]
      have same := call_quiet request session
      constructor
      · exact congrArg (fun value => Answer.done (value.mapError operation.complaint)) same.1
      · exact same.2
    · rw [perform_signal call sends, perform_signal call quietly, send_apply, send_apply]
      exact ⟨rfl, rfl⟩

/-- Lines that say nothing change no answer. -/
theorem performAll_quiet (operations : List Operation) (session : LineSession) :
    (performAll operations session.quiet).value = (performAll operations session).value := by
  induction operations generalizing session with
  | nil => rfl
  | cons operation rest ih =>
    have first := perform_quiet operation session
    rw [performAll_cons_value, performAll_cons_value, first.1, first.2, ih]

/-- Sessions that differ in lines that say nothing give the same answers. -/
theorem performAll_value_of_quiet_eq {one other : LineSession} (same : one.quiet = other.quiet)
    (operations : List Operation) :
    (performAll operations one).value = (performAll operations other).value := by
  rw [← performAll_quiet operations one, same, performAll_quiet]

end Operation

/-- How many lines are no text. -/
def brokenIn : List Line → Nat
  | [] => 0
  | line :: rest =>
    match line.content with
    | .broken => brokenIn rest + 1
    | _ => brokenIn rest

theorem brokenIn_append (before after : List Line) :
    brokenIn (before ++ after) = brokenIn before + brokenIn after := by
  induction before with
  | nil => simp [brokenIn]
  | cons line rest ih =>
    simp only [List.cons_append, brokenIn, ih]
    split
    · omega
    · rfl

/-- Counts a reading that failed. -/
def Answer.failures : Answer → Nat
  | .got (.error _) => 1
  | _ => 0

def failuresIn : List Answer → Nat
  | [] => 0
  | answer :: rest => answer.failures + failuresIn rest

namespace LineSession

/-- A reading takes a line if there is one, and fails on a line that is no text. -/
theorem awaitMessage_failures (lines : List Line) {session : LineSession}
    (opened : session.closed = false) :
    (Answer.got (awaitMessage lines session).value).failures +
        brokenIn (awaitMessage lines session).state.unread = brokenIn lines ∧
      (awaitMessage lines session).state.unread.length ≤ lines.length - 1 ∧
      (awaitMessage lines session).state.pending = session.pending ∧
      ((awaitMessage lines session).state.closed = true →
        (awaitMessage lines session).state.unread = []) := by
  induction lines using Line.byContent with
  | nil => simp [Answer.failures, brokenIn]
  | broken line rest h ih =>
    rw [awaitMessage_broken session rest h]
    simp [Answer.failures, brokenIn, h, opened, Nat.add_comm]
  | idle line rest h ih =>
    obtain ⟨count, shorter, pending, ended⟩ := ih
    rw [awaitMessage_idle session rest h]
    refine ⟨?_, ?_, pending, ended⟩
    · rcases h with h | h <;> simpa [brokenIn, h] using count
    · exact Nat.le_trans shorter (by simp)
  | message line rest m h ih =>
    rw [awaitMessage_message session rest h]
    simp [Answer.failures, brokenIn, h, opened]
  | reply line rest status h ih =>
    obtain ⟨count, shorter, pending, ended⟩ := ih
    rw [awaitMessage_reply session rest h]
    refine ⟨?_, ?_, pending, ended⟩
    · simpa [brokenIn, h] using count
    · exact Nat.le_trans shorter (by simp)

/-- As many readings as there are lines fail once for each line that is no text. -/
theorem failures_of_readings (limit : Nat) {session : LineSession}
    (empty : session.pending = []) (ended : session.closed = true → session.unread = [])
    (enough : session.unread.length ≤ limit) :
    failuresIn (Operation.performAll (List.replicate limit .read) session).value =
      brokenIn session.unread := by
  induction limit generalizing session with
  | zero =>
    have none := List.eq_nil_of_length_eq_zero (Nat.le_zero.mp enough)
    rw [none]
    rfl
  | succ limit ih =>
    rw [List.replicate_succ, Operation.performAll_cons_value, failuresIn, Operation.perform_read]
    cases closed : session.closed with
    | true =>
      rw [nextMessage_closed empty closed]
      have none := ended closed
      have later := ih empty ended (by simp [none])
      simpa [Answer.failures] using later
    | false =>
      rw [nextMessage_open empty closed]
      obtain ⟨count, shorter, pending, ended⟩ := awaitMessage_failures session.unread closed
      have later := ih (pending.trans empty) ended (by omega)
      rw [← count]
      exact congrArg (_ + ·) later

end LineSession

theorem exists_first_reply {lines : List Line} {status : Status} {later : List Status}
    (replies : repliesIn lines = status :: later) :
    ∃ before line after, lines = before ++ line :: after ∧ repliesIn before = [] ∧
      line.content = .reply status ∧ repliesIn after = later := by
  induction lines with
  | nil => cases replies
  | cons line rest ih =>
    rw [repliesIn_cons] at replies
    cases h : line.content with
    | reply other =>
      rw [h] at replies
      obtain ⟨rfl, same⟩ := List.cons.inj replies
      exact ⟨[], line, rest, rfl, rfl, h, same⟩
    | _ =>
      rw [h] at replies
      obtain ⟨before, first, after, rfl, none, reply, same⟩ := ih replies
      refine ⟨line :: before, first, after, rfl, ?_, reply, same⟩
      rw [repliesIn_cons, h, none]
      rfl

namespace Operation

open LineSession

/-- Every call goes out and is answered, and no reading meets a reply: the switch answers each
request once, after it was made. -/
def Answered : List Operation → LineSession → Prop
  | [], _ => True
  | operation :: rest, session =>
    (operation.IsCall → session.link.accepts = true ∧ repliesIn session.unread ≠ []) ∧
    (operation = read →
      repliesIn (operation.perform session).state.unread = repliesIn session.unread) ∧
    Answered rest (operation.perform session).state

/-- What the calls among operations came to. -/
def callResults : List Operation → List Answer → List (Except Fault Unit)
  | operation :: operations, .done result :: answers =>
    if operation.IsCall then result :: callResults operations answers
    else callResults operations answers
  | _ :: operations, _ :: answers => callResults operations answers
  | _, _ => []

/-- What they come to if each of them takes the next reply. -/
def resultsBy : List Operation → List Status → List (Except Fault Unit)
  | [], _ => []
  | operation :: operations, statuses =>
    if operation.IsCall then
      match statuses with
      | [] => []
      | status :: later =>
        (verdict status).mapError operation.complaint :: resultsBy operations later
    else resultsBy operations statuses

/-- The calls take the replies one by one, in the order in which they are made. -/
theorem callResults_eq_resultsBy (operations : List Operation) {session : LineSession}
    (legible : session.Legible) (answered : Answered operations session) :
    callResults operations (performAll operations session).value =
      resultsBy operations (repliesIn session.unread) := by
  induction operations generalizing session with
  | nil => rfl
  | cons operation rest ih =>
    obtain ⟨served, undisturbed, answered⟩ := answered
    have later := ih (operation.perform_legible legible) answered
    rw [performAll_cons_value]
    by_cases call : operation.IsCall
    · obtain ⟨accepts, some⟩ := served call
      obtain ⟨status, replies, split⟩ := List.exists_cons_of_ne_nil some
      obtain ⟨before, line, after, unread, none, reply, same⟩ := exists_first_reply split
      obtain ⟨request, sends⟩ : ∃ request, operation.request? session = .some request := by
        rcases operation.kinds session with rfl | sends
        · exact absurd call id
        · exact sends
      have paired := (callPaired call sends legible).answered accepts before line after status
        unread none reply
      rw [paired.2, same] at later
      rw [paired.1, paired.2, split]
      simp only [callResults, resultsBy, if_pos call, later]
      congr 1
      by_cases code : status.code = 0 <;> simp [verdict, Status.isOk, code, Except.mapError]
    · have kept : repliesIn (operation.perform session).state.unread =
          repliesIn session.unread := by
        rcases operation.kinds session with rfl | ⟨request, sends⟩
        · exact undisturbed rfl
        · rw [perform_signal call sends, send_apply]
      rw [kept] at later
      simp only [resultsBy, if_neg call]
      rw [← later]
      cases (operation.perform session).value <;> simp [callResults, call]

end Operation

/-- Where a line stands in a stream that it is put into at the end of another line. -/
theorem Line.split_insert {before line : List UInt8} (after : List UInt8)
    (boundary : before = [] ∨ before.getLast? = some 0x0a) (single : 0x0a ∉ line) :
    Line.split (before ++ (line ++ 0x0a :: after)) =
      Line.split before ++ Line.withoutReturn line :: Line.split after := by
  rw [Line.split_append_of_endsWithFeed before _ boundary, Line.split_cons_line line after single]

namespace Operation

open LineSession

/-- A line that does not decode changes no answer exactly if it is text. Then every call still has
the result of the reply that was meant for it. -/
theorem undecodable_line_harmless_iff_text (deviceId electionId : UInt64) (link : Link)
    {before line after : List UInt8} (boundary : before = [] ∨ before.getLast? = some 0x0a)
    (single : 0x0a ∉ line) (undecodable : ¬ (Line.withoutReturn line).Decodes) :
    let clean := opened deviceId electionId (before ++ after) link
    let noisy := opened deviceId electionId (before ++ (line ++ 0x0a :: after)) link
    ((∀ operations, (performAll operations noisy).value = (performAll operations clean).value) ↔
      (Line.withoutReturn line).IsText) ∧
    ((Line.withoutReturn line).IsText → (∀ l ∈ Line.split (before ++ after), l.IsText) →
      ∀ operations, Answered operations clean →
        callResults operations (performAll operations noisy).value =
          resultsBy operations (repliesIn (Line.split (before ++ after)))) := by
  intro clean noisy
  have inserted := Line.split_insert after boundary single
  have joined := Line.split_append_of_endsWithFeed before after boundary
  have harmless : (Line.withoutReturn line).IsText →
      ∀ operations, (performAll operations noisy).value = (performAll operations clean).value := by
    intro text
    apply performAll_value_of_quiet_eq
    have idle := Line.reading_of_not_decodes text undecodable
    have same : significant (Line.split (before ++ (line ++ 0x0a :: after))) =
        significant (Line.split (before ++ after)) := by
      rw [inserted, joined]
      simp [significant, (Content.isIdle_iff _).mpr idle]
    exact congrArg (fun unread => { clean with unread := unread }) same
  refine ⟨⟨?_, harmless⟩, ?_⟩
  · intro unchanged
    -- Readings alone tell the streams apart: each line that is no text makes one of them fail.
    by_cases text : (Line.withoutReturn line).IsText
    · exact text
    · exfalso
      have broken := (Line.content_eq_broken_iff _).mpr text
      have enough : clean.unread.length ≤ noisy.unread.length := by
        change (Line.split (before ++ after)).length ≤
          (Line.split (before ++ (line ++ 0x0a :: after))).length
        rw [inserted, joined]
        simp
      let readings := List.replicate noisy.unread.length read
      have onNoisy : failuresIn (performAll readings noisy).value = brokenIn noisy.unread :=
        failures_of_readings _ rfl (fun closed => by cases closed) (Nat.le_refl _)
      have onClean : failuresIn (performAll readings clean).value = brokenIn clean.unread :=
        failures_of_readings _ rfl (fun closed => by cases closed) enough
      have same : brokenIn (Line.split (before ++ (line ++ 0x0a :: after))) =
          brokenIn (Line.split (before ++ after)) := by
        rw [unchanged, onClean] at onNoisy
        exact onNoisy.symm
      rw [inserted, joined, brokenIn_append, brokenIn_append] at same
      simp [brokenIn, broken] at same
  · intro text legible operations answered
    rw [harmless text operations]
    exact callResults_eq_resultsBy operations (opened_legible deviceId electionId link legible)
      answered

/-- A refusal, then a consent. -/
def refusalThenConsent : List UInt8 :=
  Text.Utf8.encode <|
    "\x7b\"type\":\"Reply\",\"body\":\x7b\"code\":6,\"message\":\"first\"\x7d\x7d\n" ++
    "\x7b\"type\":\"Reply\",\"body\":\x7b\"code\":0,\"message\":\"\"\x7d\x7d\n"

/-- Junk changes nothing, a byte that is no text does. -/
theorem junk_harmless_but_not_bytes :
    let clean := opened 1 10 ([] ++ refusalThenConsent) {}
    let junk := Text.Utf8.encode "not json"
    (∀ operations,
      (performAll operations (opened 1 10 ([] ++ (junk ++ 0x0a :: refusalThenConsent)) {})).value =
        (performAll operations clean).value) ∧
    ¬ ∀ operations,
      (performAll operations
          (opened 1 10 ([] ++ ([0xff] ++ 0x0a :: refusalThenConsent)) {})).value =
        (performAll operations clean).value := by
  intro clean junk
  constructor
  · have harmless := @undecodable_line_harmless_iff_text 1 10 {} [] junk refusalThenConsent
      (Or.inl rfl) (by decide +kernel) (by decide +kernel)
    exact harmless.1.mpr (by decide +kernel)
  · intro unchanged
    have harmless := @undecodable_line_harmless_iff_text 1 10 {} [] [0xff] refusalThenConsent
      (Or.inl rfl) (by decide +kernel) (by decide +kernel)
    exact absurd (harmless.1.mp unchanged) (by decide +kernel)

end Operation

end SwitchAgent.Control
