import SwitchAgent.Control.LineSession
import SwitchAgent.Proofs.Text.Pieces

/-!
# What lines say

A line is a message, a reply, or of no use to the session: blank, junk, or no text at all.
Reading a line depends on nothing but this, and on where the stream is cut into lines.
-/

namespace SwitchAgent.Control

open Device Json

inductive Content where
  /-- Bytes that are no text. -/
  | broken
  | blank
  /-- Text that is neither a message nor a reply. -/
  | junk
  | message (message : Message)
  | reply (status : Status)

def Line.content (line : Line) : Content :=
  match Text.Utf8.decode line with
  | none => .broken
  | some text =>
    if text.toList.all Text.isBlank then .blank
    else match (Json.read text : Option Response) with
      | none => .junk
      | some (.message m) => .message m
      | some (.reply status) => .reply status

def Line.IsText (line : Line) : Prop :=
  (Text.Utf8.decode line).isSome

/-- The line is a document that stands for something a switch says. -/
def Line.Decodes (line : Line) : Prop :=
  ∃ text, ∃ response : Response,
    Text.Utf8.decode line = some text ∧ Json.read text = some response

instance (line : Line) : Decidable line.IsText :=
  inferInstanceAs (Decidable (_ = true))

theorem Line.decodes_iff (line : Line) :
    line.Decodes ↔
      ((Text.Utf8.decode line).bind fun text => (Json.read text : Option Response)).isSome := by
  simp only [Line.Decodes, Option.isSome_iff_exists, Option.bind_eq_some_iff]
  constructor
  · rintro ⟨text, response, decoded, reads⟩
    exact ⟨response, text, decoded, reads⟩
  · rintro ⟨response, text, decoded, reads⟩
    exact ⟨text, response, decoded, reads⟩

instance (line : Line) : Decidable line.Decodes :=
  decidable_of_iff _ line.decodes_iff.symm

namespace Content

def message? : Content → Option Message
  | message m => some m
  | _ => none

def reply? : Content → Option Status
  | reply status => some status
  | _ => none

/-- What a reader makes of it. -/
def reading : Content → Option (Except Fault Response)
  | broken => some (.error .streamRead)
  | blank => none
  | junk => none
  | message m => some (.ok (.message m))
  | reply status => some (.ok (.reply status))

def log : Content → Log
  | junk => [⟨.warn, "Ignoring invalid message from switch"⟩]
  | _ => []

end Content

namespace Line

theorem content_eq_broken_iff (line : Line) : line.content = .broken ↔ ¬ line.IsText := by
  rw [content, IsText]
  cases Text.Utf8.decode line with
  | none => simp
  | some text =>
    simp only [Option.isSome_some, not_true_eq_false, iff_false]
    split
    · simp
    · split <;> simp

/-- What does not decode is no message and no reply. -/
theorem reading_of_not_decodes {line : Line} (text : line.IsText) (undecodable : ¬ line.Decodes) :
    line.content = .blank ∨ line.content = .junk := by
  obtain ⟨s, hs⟩ := Option.isSome_iff_exists.mp text
  rw [content]
  rw [hs]
  dsimp only
  split
  · exact Or.inl rfl
  · split
    · exact Or.inr rfl
    · next m hm => exact absurd ⟨s, _, hs, hm⟩ undecodable
    · next r hr => exact absurd ⟨s, _, hs, hr⟩ undecodable

end Line

/-- The messages among lines, in the order of the lines. -/
def messagesIn (lines : List Line) : List Message :=
  lines.filterMap fun line => line.content.message?

def repliesIn (lines : List Line) : List Status :=
  lines.filterMap fun line => line.content.reply?

@[simp] theorem messagesIn_nil : messagesIn [] = [] := rfl

@[simp] theorem repliesIn_nil : repliesIn [] = [] := rfl

theorem messagesIn_cons (line : Line) (lines : List Line) :
    messagesIn (line :: lines) = line.content.message?.toList ++ messagesIn lines := by
  cases h : line.content.message? <;> simp [messagesIn, h]

theorem repliesIn_cons (line : Line) (lines : List Line) :
    repliesIn (line :: lines) = line.content.reply?.toList ++ repliesIn lines := by
  cases h : line.content.reply? <;> simp [repliesIn, h]

theorem messagesIn_append (before after : List Line) :
    messagesIn (before ++ after) = messagesIn before ++ messagesIn after :=
  List.filterMap_append

theorem repliesIn_append (before after : List Line) :
    repliesIn (before ++ after) = repliesIn before ++ repliesIn after :=
  List.filterMap_append

/-- Induction on lines by what the first one says. -/
theorem Line.byContent {motive : List Line → Prop} (nil : motive [])
    (broken : ∀ line rest, line.content = .broken → motive rest → motive (line :: rest))
    (idle : ∀ line rest, line.content = .blank ∨ line.content = .junk → motive rest →
      motive (line :: rest))
    (message : ∀ line rest m, line.content = .message m → motive rest → motive (line :: rest))
    (reply : ∀ line rest status, line.content = .reply status → motive rest →
      motive (line :: rest))
    (lines : List Line) : motive lines := by
  induction lines with
  | nil => exact nil
  | cons line rest ih =>
    cases h : line.content with
    | broken => exact broken line rest h ih
    | blank => exact idle line rest (Or.inl h) ih
    | junk => exact idle line rest (Or.inr h) ih
    | message m => exact message line rest m h ih
    | reply status => exact reply line rest status h ih

namespace Line

@[simp] theorem split_nil : split [] = [] := rfl

/-- What comes before a line feed is cut on its own. -/
theorem split_append_feed (before after : List UInt8) :
    split (before ++ 0x0a :: after) =
      (Text.pieces (· == 0x0a) before).map withoutReturn ++ split after := by
  have cut := Text.pieces_append_separator (· == (0x0a : UInt8)) before after (c := 0x0a) rfl
  have nonempty := Text.pieces_ne_nil (· == (0x0a : UInt8)) after
  have last : (Text.pieces (· == (0x0a : UInt8)) before ++ Text.pieces (· == 0x0a) after).getLast? =
      (Text.pieces (· == 0x0a) after).getLast? := by
    rw [List.getLast?_append, List.getLast?_eq_some_getLast nonempty, Option.some_or]
  simp only [split, cut, last]
  by_cases ended : (Text.pieces (· == (0x0a : UInt8)) after).getLast? = some []
  · simp only [if_pos ended, List.dropLast_append_of_ne_nil nonempty, List.map_append]
  · simp only [if_neg ended, List.map_append]

/-- A stream may be cut at the end of a line. -/
theorem split_append_of_endsWithFeed (before after : List UInt8)
    (boundary : before = [] ∨ before.getLast? = some 0x0a) :
    split (before ++ after) = split before ++ split after := by
  rcases boundary with rfl | last
  · rfl
  · obtain ⟨front, rfl⟩ := List.getLast?_eq_some_iff.mp last
    rw [List.append_assoc, List.singleton_append, split_append_feed, split_append_feed]
    simp

theorem split_cons_line (line after : List UInt8) (single : 0x0a ∉ line) :
    split (line ++ 0x0a :: after) = withoutReturn line :: split after := by
  rw [split_append_feed, Text.pieces_without_separator]
  · rfl
  · intro c hc feed
    rw [beq_iff_eq] at feed
    exact single (feed ▸ hc)

end Line

namespace LineSession

/-- Reading a line changes nothing in the session. -/
theorem readLine_apply (line : Line) (session : LineSession) :
    readLine line session = ⟨line.content.reading, session, line.content.log⟩ := by
  rw [readLine, Line.content]
  cases Text.Utf8.decode line with
  | none => rfl
  | some text =>
    dsimp only
    split
    · rfl
    · cases h : (Json.read text : Option Response) with
      | none => rfl
      | some response => cases response <;> rfl

end LineSession

end SwitchAgent.Control
