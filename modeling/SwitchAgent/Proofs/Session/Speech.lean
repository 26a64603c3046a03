import SwitchAgent.Proofs.Device.Forms
import SwitchAgent.Proofs.Session.Conversation
import SwitchAgent.Proofs.Text.Utf8

/-!
# What a switch can say

Every message has a line of its own, the document that is written of it, unless it nests too deep
for a document. So does every consent.
-/

namespace SwitchAgent.Control

open Device Json

def Content.ofResponse : Response → Content
  | .message m => .message m
  | .reply status => .reply status

namespace Line

/-- The line of a value, the line feed left out. -/
def ofValue (v : Value) : Line :=
  Text.Utf8.encode v.text

theorem printed_of_mem_ofValue {v : Value} {b : UInt8} (among : b ∈ ofValue v) :
    0x20 ≤ b.toNat := by
  refine Text.Utf8.printed_of_mem_encode (fun c present => ?_) among
  rw [Value.text, String.toList_ofList] at present
  exact v.write_printed c present

theorem feed_not_mem_ofValue (v : Value) : 0x0a ∉ ofValue v := fun among =>
  absurd (printed_of_mem_ofValue among) (by decide)

theorem withoutReturn_ofValue (v : Value) : withoutReturn (ofValue v) = ofValue v := by
  rw [withoutReturn, if_neg]
  intro ended
  have among := List.mem_of_getLast? ended
  exact absurd (printed_of_mem_ofValue among) (by decide)

/-- The line of a response, the line feed left out. -/
def ofResponse (response : Response) : Line :=
  Text.Utf8.encode (Json.write response)

variable {response : Response}

theorem content_ofResponse (shallow : (encode response).nesting ≤ 127) :
    (ofResponse response).content = Content.ofResponse response := by
  have opens : ∃ cs, (Json.write response).toList = '\x7b' :: cs := by
    rw [Json.write, Value.text, String.toList_ofList]
    cases response <;> exact ⟨_, rfl⟩
  have seen : (Json.write response).toList.all Text.isBlank = false := by
    obtain ⟨cs, chars⟩ := opens
    rw [chars]
    rfl
  rw [content, ofResponse, Text.Utf8.decode_encode]
  dsimp only
  rw [seen, response.read_write shallow]
  cases response <;> rfl

end Line

def Sentence.ofValue (v : Value) : Sentence where
  bytes := Line.ofValue v
  single := Line.feed_not_mem_ofValue v

theorem Sentence.line_ofValue (v : Value) : (Sentence.ofValue v).line = Line.ofValue v :=
  Line.withoutReturn_ofValue v

def Sentence.ofResponse (response : Response) : Sentence where
  bytes := Line.ofResponse response
  single := Line.feed_not_mem_ofValue (encode response)

theorem Sentence.content_ofResponse {response : Response}
    (shallow : (encode response).nesting ≤ 127) :
    (Sentence.ofResponse response).line.content = Content.ofResponse response := by
  have line : (Sentence.ofResponse response).line = Line.ofResponse response :=
    Sentence.line_ofValue (encode response)
  rw [line, Line.content_ofResponse shallow]

def Utterance.ofMessage (message : Message)
    (shallow : (encode (Response.message message)).nesting ≤ 127) : Utterance where
  toSentence := Sentence.ofResponse (.message message)
  message := message
  meaning := Sentence.content_ofResponse shallow

def Consent.ofText (text : String) : Consent where
  toSentence := Sentence.ofResponse (.reply ⟨0, text⟩)
  text := text
  meaning := Sentence.content_ofResponse (by rw [Response.nesting_reply]; decide)

theorem Utterance.isText (utterance : Utterance) : utterance.line.IsText := by
  refine Classical.not_not.mp fun broken => ?_
  cases utterance.meaning.symm.trans ((Line.content_eq_broken_iff _).mpr broken)

theorem Utterance.messagesIn_line (utterance : Utterance) :
    messagesIn [utterance.line] = [utterance.message] := by
  rw [messagesIn_cons, utterance.meaning]
  rfl

/-- A switch can say any messages that do not nest too deep. -/
theorem Utterance.exists_saying (messages : List Message)
    (shallow : ∀ m ∈ messages, (encode (Response.message m)).nesting ≤ 127) :
    ∃ utterances : List Utterance, Utterance.messages utterances = messages ∧
      utterances.map (·.bytes) = messages.map fun m => Line.ofResponse (.message m) := by
  induction messages with
  | nil => exact ⟨[], rfl, rfl⟩
  | cons m ms ih =>
    obtain ⟨utterances, said, sent⟩ := ih fun m later => shallow m (List.mem_cons_of_mem _ later)
    refine ⟨.ofMessage m (shallow m List.mem_cons_self) :: utterances, ?_, ?_⟩
    · exact congrArg (m :: ·) said
    · exact congrArg (Line.ofResponse (.message m) :: ·) sent

end SwitchAgent.Control
