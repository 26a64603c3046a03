import SwitchAgent.Proofs.Telemetry.Cells

/-!
# Walks

What a cursor is asked for, step after step. Whatever the steps are, it stays inside its buffer, and
a step that fails leaves it where it stood. A machine that changes its cursor in place, on words
whose sums may be too large, walks in the same way.
-/

namespace SwitchAgent.Bytes

open SwitchAgent.Telemetry (Machine WordCursor Follows)

/-- What a cursor may be asked for, with any words for offsets and lengths. -/
inductive Step where
  | seek (position : UInt64)
  | slice (offset length : UInt64)
  | take (length : UInt64)
  | peek (width offset : UInt64)
  | takeNumber (width : UInt64)
  | takeWord (word : Word) (narrow : word ≠ .u128)

inductive Answer where
  | moved
  | bytes (bytes : List UInt8)
  | number (n : UInt64)
  | word (word : Word) (n : BitVec (8 * word.bytes))

namespace Step

def act (c : Cursor) : Step → Except Fault (Answer × Cursor)
  | seek position => do
    let c ← c.seek position.toNat
    return (.moved, c)
  | slice offset length => do
    let bytes ← c.slice offset.toNat length.toNat
    return (.bytes bytes, c)
  | take length => do
    let (bytes, c) ← c.take length.toNat
    return (.bytes bytes, c)
  | peek width offset => do
    let n ← c.peek width.toNat offset.toNat
    return (.number n, c)
  | takeNumber width => do
    let (n, c) ← c.takeNumber width.toNat
    return (.number n, c)
  | takeWord word _ => do
    let (n, c) ← c.takeWord word
    return (.word word n, c)

/-- Where the bytes stand that a step asks for. A new position is asked for as the place of no
bytes. -/
def offset (position : Nat) : Step → Nat
  | seek position => position.toNat
  | slice offset _ | peek _ offset => offset.toNat
  | take _ | takeNumber _ | takeWord _ _ => position

def count : Step → Nat
  | seek _ => 0
  | slice _ length | take length => length.toNat
  | peek width _ | takeNumber width => width.toNat
  | takeWord word _ => word.bytes

/-- Where a step leaves the cursor if it gets what it asks for. -/
def landing (position : Nat) (step : Step) : Nat :=
  match step with
  | seek position => position.toNat
  | slice _ _ | peek _ _ => position
  | take _ | takeNumber _ | takeWord _ _ => position + step.count

/-- What a step answers, from the bytes that it asked for. -/
def answer (bytes : List UInt8) : Step → Answer
  | seek _ => .moved
  | slice _ _ | take _ => .bytes bytes
  | peek _ _ | takeNumber _ => .number (.ofNat (value bytes))
  | takeWord word _ => .word word (.ofNat _ (value bytes))

end Step

/-- One step of a walk: where the cursor stood, what it answered, where it stood then and how much
was left. -/
structure Event where
  step : Step
  before : Nat
  answer : Except Fault Answer
  after : Nat
  remaining : Nat

namespace Cursor

/-- Where there is a fault, the old cursor is still there. -/
def perform (c : Cursor) (step : Step) : Except Fault Answer × Cursor :=
  match step.act c with
  | .ok (answer, c') => (.ok answer, c')
  | .error fault => (.error fault, c)

def event (c : Cursor) (step : Step) : Event :=
  let (answer, c') := c.perform step
  ⟨step, c.position, answer, c'.position, c'.remaining⟩

def walk (c : Cursor) : List Step → List Event
  | [] => []
  | step :: steps => c.event step :: (c.perform step).2.walk steps

end Cursor

/-- What a step must do in a buffer. -/
structure Event.Lawful (buffer : List UInt8) (e : Event) : Prop where
  inside : e.after ≤ buffer.length
  whole : e.after + e.remaining = buffer.length
  granted (fits : e.step.offset e.before + e.step.count ≤ buffer.length) :
    e.answer = .ok (e.step.answer ((buffer.drop (e.step.offset e.before)).take e.step.count)) ∧
      e.after = e.step.landing e.before
  refused (beyond : buffer.length < e.step.offset e.before + e.step.count) :
    (∃ fault, e.answer = .error fault ∧ fault.kind = .malformed) ∧ e.after = e.before

namespace Cursor

theorem peek_demands_value (c : Cursor) (width offset : Nat) :
    Demands (offset + width ≤ c.buffer.length)
      (fun n => n = .ofNat (numberAt c.buffer width offset)) (c.peek width offset) := by
  apply (c.slice_demands offset width).map
  rintro bytes - rfl
  rfl

theorem takeNumber_demands_value (c : Cursor) (width : Nat) :
    Demands (c.position + width ≤ c.buffer.length)
      (fun taken => taken.1 = .ofNat (numberAt c.buffer width c.position) ∧
        taken.2.buffer = c.buffer ∧ taken.2.position = c.position + width)
      (c.takeNumber width) := by
  apply (c.take_demands width).map
  rintro ⟨bytes, c'⟩ - ⟨rfl, moved⟩
  exact ⟨rfl, moved⟩

theorem takeWord_demands_value (c : Cursor) {word : Word} (narrow : word ≠ .u128) :
    Demands (c.position + word.bytes ≤ c.buffer.length)
      (fun taken => taken.1 = .ofNat _ (numberAt c.buffer word.bytes c.position) ∧
        taken.2.buffer = c.buffer ∧ taken.2.position = c.position + word.bytes)
      (c.takeWord word) := by
  apply (c.takeNumber_demands_value word.bytes).map
  rintro ⟨n, c'⟩ - ⟨rfl, moved⟩
  have fits : 8 * word.bytes ≤ 64 := Nat.mul_le_mul_left 8 (Word.bytes_le_eight narrow)
  exact ⟨BitVec.setWidth_ofNat_of_le fits _, moved⟩

end Cursor

theorem Step.act_demands (c : Cursor) (step : Step) :
    Demands (step.offset c.position + step.count ≤ c.buffer.length)
      (fun done =>
        done.1 = step.answer ((c.buffer.drop (step.offset c.position)).take step.count) ∧
          done.2.buffer = c.buffer ∧ done.2.position = step.landing c.position) (step.act c) := by
  cases step with
  | seek position =>
    apply (c.seek_demands position.toNat).map
    rintro c' - moved
    exact ⟨rfl, moved⟩
  | slice offset length =>
    apply (c.slice_demands offset.toNat length.toNat).map
    rintro bytes - rfl
    exact ⟨rfl, rfl, rfl⟩
  | take length =>
    apply (c.take_demands length.toNat).map
    rintro ⟨bytes, c'⟩ - ⟨rfl, moved⟩
    exact ⟨rfl, moved⟩
  | peek width offset =>
    apply (c.peek_demands_value width.toNat offset.toNat).map
    rintro n - rfl
    exact ⟨rfl, rfl, rfl⟩
  | takeNumber width =>
    apply (c.takeNumber_demands_value width.toNat).map
    rintro ⟨n, c'⟩ - ⟨rfl, moved⟩
    exact ⟨rfl, moved⟩
  | takeWord word narrow =>
    apply (c.takeWord_demands_value narrow).map
    rintro ⟨n, c'⟩ - ⟨rfl, moved⟩
    exact ⟨rfl, moved⟩

namespace Cursor

theorem perform_granted {c : Cursor} {step : Step}
    (fits : step.offset c.position + step.count ≤ c.buffer.length) :
    (c.perform step).1 =
        .ok (step.answer ((c.buffer.drop (step.offset c.position)).take step.count)) ∧
      (c.perform step).2.buffer = c.buffer ∧
      (c.perform step).2.position = step.landing c.position := by
  obtain ⟨⟨answer, c'⟩, acted, rfl, moved⟩ := (step.act_demands c).met fits
  rw [perform, acted]
  exact ⟨rfl, moved⟩

theorem perform_refused {c : Cursor} {step : Step}
    (beyond : c.buffer.length < step.offset c.position + step.count) :
    (∃ fault, (c.perform step).1 = .error fault ∧ fault.kind = .malformed) ∧
      (c.perform step).2 = c := by
  obtain ⟨fault, acted, kind⟩ := (step.act_demands c).missed (Nat.not_le.mpr beyond)
  rw [perform, acted]
  exact ⟨⟨fault, rfl, kind⟩, rfl⟩

theorem perform_buffer (c : Cursor) (step : Step) : (c.perform step).2.buffer = c.buffer := by
  by_cases fits : step.offset c.position + step.count ≤ c.buffer.length
  · exact (perform_granted fits).2.1
  · rw [(perform_refused (Nat.not_le.mp fits)).2]

theorem event_lawful (c : Cursor) (step : Step) : (c.event step).Lawful c.buffer where
  inside := by
    have inside := (c.perform step).2.inside
    rwa [perform_buffer] at inside
  whole := by
    have whole := Nat.add_sub_of_le (c.perform step).2.inside
    exact whole.trans (congrArg List.length (c.perform_buffer step))
  granted fits := by
    obtain ⟨answered, -, moved⟩ := perform_granted fits
    exact ⟨answered, moved⟩
  refused beyond := by
    obtain ⟨failed, same⟩ := perform_refused beyond
    exact ⟨failed, congrArg position same⟩

end Cursor

/-- Where the cursor stands after some events. -/
def finish (start : Nat) : List Event → Nat
  | [] => start
  | e :: events => finish e.after events

/-- Every event starts where the one before it ended. -/
def Linked (start : Nat) : List Event → Prop
  | [] => True
  | e :: events => e.before = start ∧ Linked e.after events

theorem linked_append {start : Nat} {first second : List Event} :
    Linked start (first ++ second) ↔ Linked start first ∧ Linked (finish start first) second := by
  induction first generalizing start with
  | nil => simp [Linked, finish]
  | cons e first ih => simp [Linked, finish, ih, and_assoc]

theorem finish_append (start : Nat) (first second : List Event) :
    finish start (first ++ second) = finish (finish start first) second := by
  induction first generalizing start with
  | nil => rfl
  | cons e first ih => exact ih e.after

namespace Cursor

theorem walk_steps (c : Cursor) (steps : List Step) : (c.walk steps).map Event.step = steps := by
  induction steps generalizing c with
  | nil => rfl
  | cons step steps ih => exact congrArg (step :: ·) (ih _)

theorem walk_linked (c : Cursor) (steps : List Step) : Linked c.position (c.walk steps) := by
  induction steps generalizing c with
  | nil => trivial
  | cons step steps ih => exact ⟨rfl, ih _⟩

theorem walk_lawful (c : Cursor) (steps : List Step) :
    ∀ e ∈ c.walk steps, e.Lawful c.buffer := by
  induction steps generalizing c with
  | nil => simp [walk]
  | cons step steps ih =>
    have later := ih (c.perform step).2
    rw [perform_buffer] at later
    exact List.forall_mem_cons.mpr ⟨c.event_lawful step, later⟩

end Cursor

/-- The number of some bytes is written as these bytes. -/
theorem encode_numberAt {buffer : List UInt8} {width offset : Nat}
    (inside : offset + width ≤ buffer.length) :
    Bitstring.encode width (numberAt buffer width offset) = (buffer.drop offset).take width := by
  have whole : ((buffer.drop offset).take width).length = width := by
    rw [List.length_take, List.length_drop]
    omega
  have written := encode_value ((buffer.drop offset).take width)
  rwa [whole] at written

theorem toNat_word_numberAt (buffer : List UInt8) (word : Word) (offset : Nat) :
    (BitVec.ofNat (8 * word.bytes) (numberAt buffer word.bytes offset)).toNat =
      numberAt buffer word.bytes offset := by
  have bounded := numberAt_lt buffer word.bytes offset
  rw [show 256 = 2 ^ 8 from rfl, ← Nat.pow_mul] at bounded
  rw [BitVec.toNat_ofNat, Nat.mod_eq_of_lt bounded]

namespace Event

/-- The bytes that an event took off the buffer: none if it failed or only looked. Not known after a
leap, nor where the answer is a number of more bytes than it shows. -/
def taken? (e : Event) : Option (List UInt8) :=
  match e.step, e.answer with
  | _, .error _ => some []
  | .slice _ _, _ | .peek _ _, _ => some []
  | .take _, .ok (.bytes bytes) => some bytes
  | .takeNumber width, .ok (.number n) =>
    if width.toNat ≤ 8 then some (Bitstring.encode width.toNat n.toNat) else none
  | .takeWord _ _, .ok (.word word n) => some (Bitstring.encode word.bytes n.toNat)
  | _, _ => none

theorem Lawful.take_append {buffer bytes : List UInt8} {e : Event} (lawful : e.Lawful buffer)
    (taken : e.taken? = some bytes) : buffer.take e.before ++ bytes = buffer.take e.after := by
  obtain ⟨step, before, answer, after, remaining⟩ := e
  by_cases fits : step.offset before + step.count ≤ buffer.length
  · obtain ⟨answered, moved⟩ := lawful.granted fits
    clear lawful
    dsimp only at answered moved
    subst answered moved
    cases step with
    | seek position => cases taken
    | slice offset length =>
      cases taken
      exact List.append_nil _
    | peek width offset =>
      cases taken
      exact List.append_nil _
    | take length =>
      cases taken
      exact List.take_add.symm
    | takeNumber width =>
      change (if width.toNat ≤ 8 then some (Bitstring.encode width.toNat
        (UInt64.ofNat (numberAt buffer width.toNat before)).toNat) else none) = some bytes at taken
      have written : Bitstring.encode width.toNat (numberAt buffer width.toNat before) =
          (buffer.drop before).take width.toNat := encode_numberAt fits
      split at taken
      · next narrow =>
        rw [toNat_ofNat_numberAt buffer before narrow, written] at taken
        cases taken
        exact List.take_add.symm
      · cases taken
    | takeWord word narrow =>
      change some (Bitstring.encode word.bytes (BitVec.ofNat (8 * word.bytes)
        (numberAt buffer word.bytes before)).toNat) = some bytes at taken
      have written : Bitstring.encode word.bytes (numberAt buffer word.bytes before) =
          (buffer.drop before).take word.bytes := encode_numberAt fits
      rw [toNat_word_numberAt, written] at taken
      cases taken
      exact List.take_add.symm
  · obtain ⟨⟨fault, failed, -⟩, stayed⟩ := lawful.refused (Nat.not_le.mp fits)
    clear lawful
    dsimp only at failed stayed
    subst failed stayed
    cases taken
    exact List.append_nil _

end Event

theorem take_append_flatten {buffer : List UInt8} {events : List Event} {start : Nat}
    {chunks : List (List UInt8)} (linked : Linked start events)
    (lawful : ∀ e ∈ events, e.Lawful buffer) (taken : events.mapM Event.taken? = some chunks) :
    buffer.take start ++ chunks.flatten = buffer.take (finish start events) := by
  induction events generalizing start chunks with
  | nil =>
    cases taken
    exact List.append_nil _
  | cons e events ih =>
    obtain ⟨rfl, linked⟩ := linked
    obtain ⟨first, later⟩ := List.forall_mem_cons.mp lawful
    rw [List.mapM_cons] at taken
    obtain ⟨bytes, here, taken⟩ := Option.bind_eq_some_iff.mp taken
    obtain ⟨rest, others, same⟩ := Option.bind_eq_some_iff.mp taken
    cases same
    rw [List.flatten_cons, ← List.append_assoc, first.take_append here]
    exact ih linked later others

/-- Steps that change a cursor. What was changed before a fault stays changed. -/
abbrev InPlace := ExceptT Fault (StateT WordCursor Option)

namespace InPlace

/-- A reading that leaves the cursor alone. -/
def look {α : Type} (read : WordCursor → Machine α) : InPlace α :=
  fun c => (read c).run.map fun result => (result, c)

def take (length : UInt64) : InPlace (List UInt8) := do
  let bytes ← look fun c => c.slice c.position length
  let position ← look fun c => Telemetry.Word.plus c.position length
  modify fun c => { c with position }
  return bytes

def act : Step → InPlace Answer
  | .seek position => do
    let moved ← look fun c => c.seek position
    set moved
    return .moved
  | .slice offset length => return .bytes (← look fun c => c.slice offset length)
  | .take length => return .bytes (← take length)
  | .peek width offset => return .number (← look fun c => c.peek width offset)
  | .takeNumber width => return .number (Telemetry.Word.ofBytes (← take width))
  | .takeWord word _ => do
    let n := Telemetry.Word.ofBytes (← take (.ofNat word.bytes))
    return .word word (n.toBitVec.setWidth _)

/-- A fault comes without a cursor; the old one is still there. -/
def outcome {α : Type} (c : WordCursor) (read : Machine (α × WordCursor)) :
    Option (Except Fault α × WordCursor) :=
  read.run.map fun
    | .ok (a, c') => (.ok a, c')
    | .error fault => (.error fault, c)

/-- It stops where a sum is too large, and where the cursor stands so far outside that less than
nothing is left. -/
def walk : List Step → WordCursor → Option (List Event)
  | [], _ => return []
  | step :: steps, c => do
    let (answer, c') ← (act step).run.run c
    let left ← c'.remaining
    let events ← walk steps c'
    return ⟨step, c.position.toNat, answer, c'.position.toNat, left.toNat⟩ :: events

/-- The steps come to what the result says, the cursor included; where it is a fault, the cursor is
the old one. -/
def Ends {α : Type} (c : WordCursor) (steps : InPlace α) (result : Except Fault (α × Cursor)) :
    Prop :=
  match result with
  | .ok (a, d) => ∃ c', steps.run.run c = some (.ok a, c') ∧ c'.Matches d
  | .error fault => steps.run.run c = some (.error fault, c)

variable {α β : Type} {c : WordCursor} {d : Cursor}

/-- What follows a reading finds the cursor as it was. -/
theorem run_look_bind (read : WordCursor → Machine α) (next : α → InPlace β) (c : WordCursor) :
    (look read >>= next).run.run c = match (read c).run with
      | none => none
      | some (.error fault) => some (.error fault, c)
      | some (.ok a) => (next a).run.run c := by
  change Option.bind ((read c).run.map fun result => (result, c)) _ = _
  cases (read c).run with
  | none => rfl
  | some result => cases result <;> rfl

theorem run_look (read : WordCursor → Machine α) (f : α → β) (c : WordCursor) :
    (do return f (← look read) : InPlace β).run.run c =
      outcome c (do return (f (← read c), c)) := by
  rw [run_look_bind]
  cases read c with
  | none => rfl
  | some result => cases result <;> rfl

theorem run_seek (position : UInt64) (c : WordCursor) :
    (act (.seek position)).run.run c =
      outcome c (do return (.moved, ← c.seek position)) := by
  rw [act, run_look_bind]
  cases c.seek position with
  | none => rfl
  | some result => cases result <;> rfl

/-- The cursor is moved once the bytes are had. -/
theorem run_take (length : UInt64) (c : WordCursor) :
    (take length).run.run c = outcome c (c.take length) := by
  rw [take, run_look_bind, WordCursor.take]
  cases c.slice c.position length with
  | none => rfl
  | some result =>
    cases result with
    | error fault => rfl
    | ok bytes =>
      change (look _ >>= _).run.run c = outcome c (liftM _ >>= _)
      rw [run_look_bind]
      cases Telemetry.Word.plus c.position length <;> rfl

theorem ends_of_follows {steps : InPlace α} {read : Machine (α × WordCursor)}
    {result : Except Fault (α × Cursor)}
    (follows : Follows (fun done due => done.1 = due.1 ∧ done.2.Matches due.2) read result)
    (run : steps.run.run c = outcome c read) : Ends c steps result := by
  cases result with
  | error fault =>
    have failed : read = throw fault := follows
    rw [failed] at run
    exact run
  | ok due =>
    obtain ⟨⟨a, c'⟩, had, rfl, moved⟩ := follows
    rw [had] at run
    exact ⟨c', run, moved⟩

theorem ends_look (h : c.Matches d) {read : WordCursor → Machine α} {result : Except Fault α}
    (follows : Follows Eq (read c) result) (f : α → β) :
    Ends c (do return f (← look read)) (do return (f (← result), d)) := by
  refine ends_of_follows (follows.bind ?_) (run_look read f c)
  rintro a _ rfl
  exact ⟨(f a, c), rfl, rfl, h⟩

theorem ends_seek (h : c.Matches d) (position : UInt64) :
    Ends c (act (.seek position)) (Step.act d (.seek position)) := by
  have follows := @WordCursor.Matches.seek c d h position _ rfl
  refine ends_of_follows (follows.bind ?_) (run_seek position c)
  intro c' d' moved
  exact ⟨(.moved, c'), rfl, rfl, moved⟩

theorem ends_take (h : c.Matches d) {length : UInt64} {width : Nat} (wide : length.toNat = width) :
    Ends c (take length) (d.take width) :=
  ends_of_follows (h.take wide) (run_take length c)

theorem Ends.map {steps : InPlace α} {result : Except Fault (α × Cursor)}
    (h : Ends c steps result) (f : α → β) :
    Ends c (do return f (← steps)) (do let (a, d) ← result; return (f a, d)) := by
  cases result with
  | error fault =>
    have ran : steps.run.run c = some (.error fault, c) := h
    change (steps >>= fun a => pure (f a)).run.run c = some (.error fault, c)
    simp [ran]
    rfl
  | ok done =>
    obtain ⟨c', ran, moved⟩ := h
    refine ⟨c', ?_, moved⟩
    simp [ran]
    rfl

theorem act_ends (h : c.Matches d) (step : Step) : Ends c (act step) (step.act d) := by
  cases step with
  | seek position => exact ends_seek h position
  | slice offset length => exact ends_look h (h.slice rfl rfl) Answer.bytes
  | take length => exact (ends_take h rfl).map Answer.bytes
  | peek width offset => exact ends_look h (h.peek rfl rfl) Answer.number
  | takeNumber width =>
    have same : Step.act d (.takeNumber width) = (do
        let (bytes, d) ← d.take width.toNat
        return (.number (Telemetry.Word.ofBytes bytes), d)) := by
      simp [Step.act, Cursor.takeNumber, Telemetry.Word.ofBytes_eq]
    rw [same]
    exact (ends_take h rfl).map fun bytes => Answer.number (Telemetry.Word.ofBytes bytes)
  | takeWord word narrow =>
    have wide : (UInt64.ofNat word.bytes).toNat = word.bytes := by cases word <;> rfl
    have same : Step.act d (.takeWord word narrow) = (do
        let (bytes, d) ← d.take word.bytes
        return (.word word ((Telemetry.Word.ofBytes bytes).toBitVec.setWidth _), d)) := by
      simp [Step.act, Cursor.takeWord, Cursor.takeNumber, Telemetry.Word.ofBytes_eq]
    rw [same]
    exact (ends_take h wide).map fun bytes =>
      Answer.word word ((Telemetry.Word.ofBytes bytes).toBitVec.setWidth _)

theorem run_act (h : c.Matches d) (step : Step) :
    ∃ c', (act step).run.run c = some ((d.perform step).1, c') ∧
      c'.Matches (d.perform step).2 := by
  have ends := act_ends h step
  rw [Cursor.perform]
  cases acted : step.act d with
  | error fault =>
    rw [acted] at ends
    exact ⟨c, ends, h⟩
  | ok done =>
    rw [acted] at ends
    exact ends

theorem walk_eq (h : c.Matches d) (steps : List Step) : walk steps c = some (d.walk steps) := by
  induction steps generalizing c d with
  | nil => rfl
  | cons step steps ih =>
    obtain ⟨c', ran, moved⟩ := run_act h step
    obtain ⟨left, has, same⟩ := moved.remaining
    rw [walk, ran, Cursor.walk, Cursor.event]
    simp [has, ih moved, same, h.position, moved.position]

end InPlace

namespace Cursor

/-- Whatever a cursor is asked for, it answers step by step, each from where the one before left it.
It never leaves the buffer, gives just what is inside, and is moved neither by a look nor by a
fault. As long as nothing leaps, the bytes that are taken make up the buffer between the first
position and the last. A machine that changes its cursor in place, on words, never stops and walks
in the same way. -/
theorem walks_stay_inside_and_faults_move_nothing (buffer : List UInt8) (steps : List Step) :
    ((ofBytes buffer).walk steps).map Event.step = steps ∧
    Linked 0 ((ofBytes buffer).walk steps) ∧
    (∀ e ∈ (ofBytes buffer).walk steps, e.Lawful buffer) ∧
    (∀ front part back chunks, (ofBytes buffer).walk steps = front ++ part ++ back →
      part.mapM Event.taken? = some chunks →
      buffer.take (finish 0 front) ++ chunks.flatten = buffer.take (finish 0 (front ++ part))) ∧
    (buffer.length < UInt64.size →
      InPlace.walk steps ⟨buffer, 0⟩ = some ((ofBytes buffer).walk steps)) := by
  have linked : Linked 0 ((ofBytes buffer).walk steps) := (ofBytes buffer).walk_linked steps
  have lawful : ∀ e ∈ (ofBytes buffer).walk steps, e.Lawful buffer :=
    (ofBytes buffer).walk_lawful steps
  refine ⟨walk_steps _ steps, linked, lawful, ?_, ?_⟩
  · intro front part back chunks parts taken
    rw [parts] at linked lawful
    have before := (linked_append.mp (linked_append.mp linked).1).2
    have each : ∀ e ∈ part, e.Lawful buffer := fun e among =>
      lawful e (List.mem_append_left back (List.mem_append_right front among))
    rw [finish_append, take_append_flatten before each taken]
  · intro fits
    exact InPlace.walk_eq (WordCursor.start_matches fits) steps

/-- A range whose end is no word, a place and a word beyond the buffer, and what is between. -/
def unruly : List Step :=
  [.take 2, .slice 0xffffffffffffffff 2, .takeNumber 2, .seek 6, .takeWord .u16 (by decide),
    .peek 2 3]

def fiveBytes : Cursor :=
  ofBytes [1, 2, 3, 4, 5]

theorem unruly_walk_takes_four_bytes_of_five :
    InPlace.walk unruly ⟨[1, 2, 3, 4, 5], 0⟩ = some (fiveBytes.walk unruly) ∧
    (∃ e ∈ fiveBytes.walk unruly, e.step = .slice 0xffffffffffffffff 2 ∧
      (∃ fault, e.answer = .error fault ∧ fault.kind = .malformed) ∧ e.before = 2 ∧ e.after = 2) ∧
    (fiveBytes.walk unruly).mapM Event.taken? = some [[1, 2], [], [3, 4], [], [], []] ∧
    fiveBytes.buffer.take (finish 0 (fiveBytes.walk unruly)) = [1, 2, 3, 4] := by
  obtain ⟨-, -, lawful, taken, onWords⟩ :=
    walks_stay_inside_and_faults_move_nothing [1, 2, 3, 4, 5] unruly
  have second : (fiveBytes.perform (.take 2)).2.event (.slice 0xffffffffffffffff 2) ∈
      fiveBytes.walk unruly := .tail _ (.head _)
  obtain ⟨failed, stayed⟩ := (lawful _ second).refused (by decide)
  have chunks : (fiveBytes.walk unruly).mapM Event.taken? =
      some [[1, 2], [], [3, 4], [], [], []] := by decide +kernel
  have whole := taken [] (fiveBytes.walk unruly) [] _ (List.append_nil _).symm chunks
  exact ⟨onWords (by decide), ⟨_, second, rfl, failed, rfl, stayed⟩, chunks, whole.symm⟩

end Cursor

end SwitchAgent.Bytes
