import Mathlib.Algebra.Group.Nat.Defs
import SwitchAgent.Bytes.Bitstring
import SwitchAgent.Proofs.Control.Series
import SwitchAgent.Proofs.Session.Reading
import SwitchAgent.Telemetry.FrameStream

/-!
# Cutting a stream of reports

Reports that follow one another on a stream are cut apart again by their lengths alone, whatever
stands in them. When a write fails, the frames before it are whole, and the stream is silent from
then on.
-/

namespace SwitchAgent.Telemetry.FrameStream

open SwitchAgent.Action Bytes Network

/-- The length of a report has to fit in four bytes. -/
def Fits (report : List UInt8) : Prop :=
  report.length < 2 ^ 32

instance : DecidablePred Fits :=
  fun report => inferInstanceAs (Decidable (report.length < 2 ^ 32))

/-- A report after its length, the least significant byte first. -/
def frame (report : List UInt8) : List UInt8 :=
  (Bitstring.encode 4 report.length).reverse ++ report

theorem frameHeader_of_fits {report : List UInt8} (fits : Fits report) :
    frameHeader report.length = some (Bitstring.encode 4 report.length).reverse := by
  have small : report.length < UInt32.size := fits
  rw [frameHeader, if_pos small]
  simp [Bitstring.encode, Nat.div_div_eq_div_mul]

theorem frameHeader_of_not_fits {report : List UInt8} (long : ¬ Fits report) :
    frameHeader report.length = none :=
  if_neg long

theorem readHeader_frame {report : List UInt8} (fits : Fits report) (rest : List UInt8) :
    readHeader (frame report ++ rest) = some (report.length, report ++ rest) := by
  have small : report.length < 2 ^ 32 := fits
  have bytes : frame report ++ rest =
      UInt8.ofNat report.length :: UInt8.ofNat (report.length / 256) ::
        UInt8.ofNat (report.length / 256 / 256) ::
        UInt8.ofNat (report.length / 256 / 256 / 256) :: (report ++ rest) := rfl
  rw [bytes, readHeader]
  simp only [UInt8.toNat_ofNat', Option.some.injEq, Prod.mk.injEq, and_true]
  omega

theorem readHeader_append {bytes rest : List UInt8} {length : Nat}
    (read : readHeader bytes = some (length, rest)) (more : List UInt8) :
    readHeader (bytes ++ more) = some (length, rest ++ more) := by
  rcases bytes with _ | ⟨a, _ | ⟨b, _ | ⟨c, _ | ⟨d, bytes⟩⟩⟩⟩
  case cons.cons.cons.cons =>
    cases read
    rfl
  all_goals cases read

/-- No whole frame stands in front. -/
def Incomplete (bytes : List UInt8) : Prop :=
  ∀ length rest, readHeader bytes = some (length, rest) → rest.length < length

theorem incomplete_nil : Incomplete [] := by
  intro length rest read
  cases read

/-- A part of a frame that lacks its end is no frame. -/
theorem incomplete_of_append {report part more : List UInt8} (fits : Fits report)
    (whole : part ++ more = frame report) (lacking : more ≠ []) : Incomplete part := by
  intro length rest read
  have header := readHeader_frame fits []
  rw [List.append_nil, List.append_nil, ← whole, readHeader_append read more] at header
  obtain ⟨rfl, content⟩ := Prod.mk.inj (Option.some.inj header)
  have longer := List.length_pos_iff.mpr lacking
  rw [← content, List.length_append]
  omega

theorem cutWithin_incomplete {bytes : List UInt8} (incomplete : Incomplete bytes) (fuel : Nat) :
    cutWithin fuel bytes = ([], bytes) := by
  cases fuel with
  | zero => rfl
  | succ fuel =>
    cases read : readHeader bytes with
    | none => simp [cutWithin, read]
    | some header =>
      have short := incomplete header.1 header.2 read
      simp [cutWithin, read, Nat.not_le.mpr short]

/-- One frame after the other is taken off, whatever the reports hold. -/
theorem cutWithin_frames {reports : List (List UInt8)} (fit : ∀ report ∈ reports, Fits report)
    {rest : List UInt8} (incomplete : Incomplete rest) {fuel : Nat}
    (enough : reports.length ≤ fuel) :
    cutWithin fuel (reports.flatMap frame ++ rest) = (reports, rest) := by
  induction reports generalizing fuel with
  | nil => exact cutWithin_incomplete incomplete fuel
  | cons report reports ih =>
    obtain ⟨first, others⟩ := List.forall_mem_cons.mp fit
    cases fuel with
    | zero => exact absurd enough (Nat.not_succ_le_zero _)
    | succ fuel =>
      have later := ih others (Nat.le_of_succ_le_succ enough)
      rw [List.flatMap_cons, List.append_assoc, cutWithin, readHeader_frame first]
      simp [later]

theorem length_le_length_frames (reports : List (List UInt8)) :
    reports.length ≤ (reports.flatMap frame).length := by
  induction reports with
  | nil => exact Nat.le_refl 0
  | cons report reports ih =>
    have header := Bitstring.length_encode 4 report.length
    rw [List.flatMap_cons, List.length_append, List.length_cons, frame, List.length_append,
      List.length_reverse]
    omega

theorem cut_frames {reports : List (List UInt8)} (fit : ∀ report ∈ reports, Fits report)
    {rest : List UInt8} (incomplete : Incomplete rest) :
    cut (reports.flatMap frame ++ rest) = (reports, rest) := by
  have enough := length_le_length_frames reports
  refine cutWithin_frames fit incomplete ?_
  rw [List.length_append]
  omega

/-- The reports that get a frame: one that is too long is dropped. -/
def framed (reports : List (List UInt8)) : List (List UInt8) :=
  reports.filter fun report => decide (Fits report)

theorem fits_of_mem_framed {reports : List (List UInt8)} :
    ∀ report ∈ framed reports, Fits report := by
  intro report among
  exact of_decide_eq_true (List.mem_filter.mp among).2

theorem framed_eq_self {reports : List (List UInt8)} (fit : ∀ report ∈ reports, Fits report) :
    framed reports = reports :=
  List.filter_eq_self.mpr fun report among => decide_eq_true (fit report among)

theorem framed_cons_fits {report : List UInt8} (fits : Fits report)
    (reports : List (List UInt8)) : framed (report :: reports) = report :: framed reports :=
  List.filter_cons_of_pos (decide_eq_true fits)

theorem framed_cons_long {report : List UInt8} (long : ¬ Fits report)
    (reports : List (List UInt8)) : framed (report :: reports) = framed reports :=
  List.filter_cons_of_neg (by simpa using long)

/-- What is left of a stream once these reports have gone out, in a write each. -/
def past (stream : FrameStream) (reports : List (List UInt8)) : FrameStream :=
  { stream with
    link := { stream.link with
      written := stream.link.written ++ reports.map frame
      count := stream.link.count + reports.length } }

theorem past_nil (stream : FrameStream) : stream.past [] = stream := by
  simp [past]

theorem past_past (stream : FrameStream) (reports others : List (List UInt8)) :
    (stream.past reports).past others = stream.past (reports ++ others) := by
  simp [past, Nat.add_assoc]

theorem delivered_past (stream : FrameStream) (reports : List (List UInt8)) :
    (stream.past reports).link.delivered = stream.link.delivered ++ reports.flatMap frame := by
  rw [past, Link.delivered, List.flatten_append, ← List.flatMap_def]
  rfl

variable {stream : FrameStream}

theorem send_silent (silent : stream.active = false) (report : List UInt8) :
    (send report stream).state = stream := by
  simp [send, silent]

theorem send_accepted {report : List UInt8} (active : stream.active = true) (fits : Fits report)
    (accepted : stream.link.refuses stream.link.count = false) :
    (send report stream).state = stream.past [report] := by
  have accepts : stream.link.accepts = true := by
    rw [Link.accepts, accepted]
    rfl
  simp [send, active, frameHeader_of_fits fits, Link.send_apply, Link.after, accepts, past, frame]

/-- A write that fails is the last one that is tried. -/
theorem send_refused {report : List UInt8} (active : stream.active = true) (fits : Fits report)
    (refused : stream.link.refuses stream.link.count = true) :
    (send report stream).state =
      ⟨{ stream.link with count := stream.link.count + 1 }, false⟩ := by
  have accepts : stream.link.accepts = false := by
    rw [Link.accepts, refused]
    rfl
  simp [send, active, frameHeader_of_fits fits, Link.send_apply, Link.after, accepts, Action.info]

theorem send_long {report : List UInt8} (long : ¬ Fits report) :
    (send report stream).state = stream := by
  cases active : stream.active <;>
    simp [send, active, frameHeader_of_not_fits long, Action.warn]

theorem after_send_silent (silent : stream.active = false) (reports : List (List UInt8)) :
    after send reports stream = stream := by
  induction reports with
  | nil => rfl
  | cons report reports ih => rwa [after, List.foldl_cons, send_silent silent]

/-- The next writes, as many as there are frames, go out. -/
def Accepts (link : Link) (frames : Nat) : Prop :=
  ∀ n < frames, link.refuses (link.count + n) = false

theorem after_send_accepted {reports : List (List UInt8)} (active : stream.active = true)
    (accepted : Accepts stream.link (framed reports).length) :
    after send reports stream = stream.past (framed reports) := by
  induction reports generalizing stream with
  | nil => exact stream.past_nil.symm
  | cons report reports ih =>
    have step : after send (report :: reports) stream =
        after send reports (send report stream).state := rfl
    by_cases fits : Fits report
    · rw [framed_cons_fits fits] at accepted ⊢
      have later : Accepts (stream.past [report]).link (framed reports).length := by
        intro n below
        have next := accepted (n + 1) (Nat.succ_lt_succ below)
        rwa [← Nat.add_assoc, Nat.add_right_comm] at next
      have rest : after send reports (stream.past [report]) =
          (stream.past [report]).past (framed reports) := ih active later
      rw [step, send_accepted active fits (accepted 0 (Nat.succ_pos _)), rest, past_past]
      rfl
    · rw [framed_cons_long fits] at accepted ⊢
      rw [step, send_long fits, ih active accepted]

/-- After the write that fails nothing more is tried. -/
theorem after_send_refused {before later : List (List UInt8)} {failed : List UInt8}
    (active : stream.active = true) (fits : Fits failed)
    (accepted : Accepts stream.link (framed before).length)
    (refused : stream.link.refuses (stream.link.count + (framed before).length) = true) :
    after send (before ++ failed :: later) stream =
      ⟨{ (stream.past (framed before)).link with
        count := stream.link.count + (framed before).length + 1 }, false⟩ := by
  have step : after send (failed :: later) (stream.past (framed before)) =
      after send later (send failed (stream.past (framed before))).state := rfl
  rw [after_append, after_send_accepted active accepted, step,
    @send_refused (stream.past (framed before)) failed active fits refused]
  exact after_send_silent rfl later

/-- While no write fails, what the other side got is cut back into the reports, with nothing left
over. When the write of a report fails, the frames before it are whole and in order, the other side
can cut them off whatever part of the last frame it got, and the stream is silent for good. -/
theorem reports_cut_back_and_silence_after_failure (stream : FrameStream) :
    (∀ reports, (∀ report ∈ reports, report.length < 2 ^ 32) → stream.active = true →
      (∀ n < reports.length, stream.link.refuses (stream.link.count + n) = false) →
      let left := after send reports stream
      ∃ received, left.link.delivered = stream.link.delivered ++ received ∧
        cut received = (reports, []) ∧ left.active = true) ∧
    (∀ before failed later, failed.length < 2 ^ 32 → stream.active = true →
      (∀ n < (framed before).length, stream.link.refuses (stream.link.count + n) = false) →
      stream.link.refuses (stream.link.count + (framed before).length) = true →
      let left := after send (before ++ failed :: later) stream
      left.active = false ∧
      left.link.count = stream.link.count + (framed before).length + 1 ∧
      left.link.written = stream.link.written ++ (framed before).map frame ∧
      ∃ received, left.link.delivered = stream.link.delivered ++ received ∧
        cut received = (framed before, []) ∧
        ∀ part more, part ++ more = frame failed → more ≠ [] →
          cut (received ++ part) = (framed before, part)) ∧
    ((∀ reports, (∀ report ∈ reports, report.length < 2 ^ 32) → framed reports = reports) ∧
      ∀ reports, stream.active = false → after send reports stream = stream) := by
  refine ⟨?_, ?_, fun _ => framed_eq_self, fun reports silent => after_send_silent silent reports⟩
  · intro reports fit active accepted left
    have whole := framed_eq_self fit
    have same : left = stream.past reports := by
      have sent : after send reports stream = stream.past (framed reports) :=
        after_send_accepted active (by rwa [whole])
      rwa [whole] at sent
    refine ⟨reports.flatMap frame, ?_, ?_, ?_⟩
    · rw [same, delivered_past]
    · have cutBack := cut_frames fit incomplete_nil
      rwa [List.append_nil] at cutBack
    · rw [same]
      exact active
  · intro before failed later fits active accepted refused left
    have same : left = _ := after_send_refused active fits accepted refused
    rw [same]
    refine ⟨rfl, rfl, rfl, (framed before).flatMap frame, ?_, ?_, ?_⟩
    · exact stream.delivered_past (framed before)
    · have cutBack := cut_frames (@fits_of_mem_framed before) incomplete_nil
      rwa [List.append_nil] at cutBack
    · intro part more whole lacking
      exact cut_frames fits_of_mem_framed (incomplete_of_append fits whole lacking)

/-- The other side takes two writes. -/
def breaking : FrameStream :=
  .ofLink { refuses := fun n => decide (2 ≤ n) }

theorem two_frames_cut_back_third_broken :
    let taken := after send [[1, 2, 3], []] breaking
    let broken := after send [[1, 2, 3], [], [7], [8]] breaking
    (taken.active = true ∧ cut taken.link.delivered = ([[1, 2, 3], []], [])) ∧
    (broken.active = false ∧ broken.link.count = 3 ∧
      broken.link.written = [[3, 0, 0, 0, 1, 2, 3], [0, 0, 0, 0]] ∧
      cut (broken.link.delivered ++ [1, 0]) = ([[1, 2, 3], []], [1, 0])) ∧
    after send [[9]] disabled = disabled := by
  intro taken broken
  obtain ⟨whole, failing, -, -⟩ := reports_cut_back_and_silence_after_failure breaking
  obtain ⟨-, -, -, silent⟩ := reports_cut_back_and_silence_after_failure disabled
  obtain ⟨received, delivered, cutBack, active⟩ :=
    whole [[1, 2, 3], []] (by decide) rfl (by decide)
  obtain ⟨inactive, count, written, before, deliveredBefore, -, cutOff⟩ :=
    failing [[1, 2, 3], []] [7] [[8]] (by decide) rfl (by decide) (by decide)
  have same : broken.link.delivered = before := deliveredBefore
  refine ⟨⟨active, ?_⟩, ⟨inactive, count, written, ?_⟩, silent [[9]] rfl⟩
  · rw [delivered]
    exact cutBack
  · rw [same]
    exact cutOff [1, 0] [0, 0, 7] (by decide) (by decide)

end SwitchAgent.Telemetry.FrameStream
