import SwitchAgent.Proofs.Device.Forms

/-!
# Messages and their bodies

There are five types of messages whose body is looked at. A message of any other type is one,
whatever its body; of these five the body decides whether there is a message and which one it is.
-/

namespace SwitchAgent.Device

open Json

namespace Message

/-- A type of messages that have a body of their own. -/
structure Kind where
  name : String
  Body : Type
  form : Form Body
  make : Body → Message

instance (kind : Kind) : Form kind.Body :=
  kind.form

def kinds : List Kind :=
  [⟨"Arbitration", Arbitration, inferInstance, .arbitration⟩,
    ⟨"Packet", PacketIn, inferInstance, fun p => .event (.packet p)⟩,
    ⟨"Digest", DigestList, inferInstance, fun l => .event (.digest l)⟩,
    ⟨"IdleTimeoutNotification", IdleTimeout, inferInstance, fun n => .event (.idleTimeout n)⟩,
    ⟨"Error", StreamError, inferInstance, fun e => .event (.error e)⟩]

theorem ofBody_of_mem_kinds {kind : Kind} (known : kind ∈ kinds) (body : Value) :
    ofBody kind.name body = (readValue body : Option kind.Body).map kind.make := by
  simp only [kinds, List.mem_cons, List.not_mem_nil, or_false] at known
  rcases known with rfl | rfl | rfl | rfl | rfl <;> rfl

/-- No body is null. -/
theorem ofBody_null {kind : Kind} (known : kind ∈ kinds) : ofBody kind.name .null = none := by
  simp only [kinds, List.mem_cons, List.not_mem_nil, or_false] at known
  rcases known with rfl | rfl | rfl | rfl | rfl <;> rfl

theorem ofBody_of_not_mem_kinds {type : String} (other : type ∉ kinds.map Kind.name)
    (body : Value) : ofBody type body = some .unknown := by
  simp only [kinds, List.map_cons, List.map_nil, List.mem_cons, List.not_mem_nil, or_false,
    not_or] at other
  obtain ⟨arbitration, packet, digest, idleTimeout, error⟩ := other
  simp [ofBody]

/-- The text of a message with a body is read as what its type makes of the body. -/
theorem read_envelope {type : String} {body : Value} {members : List (String × Value)}
    (envelope : Envelope type body members) (exact : body.Exact)
    (shallow : (Value.object members).nesting ≤ 127) :
    (Json.read (Value.object members).text : Option Message) = ofBody type body := by
  rw [read_text_eq (envelope.exact exact)]
  exact decode_envelope envelope exact shallow

theorem read_bare (type : String) :
    (Json.read (Value.object [("type", .string type)]).text : Option Message) =
      ofBody type .null := by
  have exact : (Value.object [("type", .string type)]).Exact := ⟨by simp, trivial, trivial⟩
  rw [read_text_eq exact]
  exact decode_bare type (Nat.succ_pos 126)

/-- Every message and every response is read back from the text that is written of it. A message of
none of the five types is read whatever its body, and without one; a message of the five types is
read if and only if its body is, and is what its type makes of it. -/
theorem written_is_read_and_type_decides :
    (∀ m : Message, (encode m).nesting ≤ 127 → Json.read (Json.write m) = some m) ∧
    (∀ r : Response, (encode r).nesting ≤ 127 → Json.read (Json.write r) = some r) ∧
    (∀ type, type ∉ kinds.map Kind.name →
      Json.read (Value.object [("type", .string type)]).text = some unknown ∧
      ∀ (body : Value) (members : List (String × Value)), body.Exact →
        Envelope type body members → (Value.object members).nesting ≤ 127 →
        Json.read (Value.object members).text = some unknown) ∧
    ∀ kind ∈ kinds,
      (Json.read (Value.object [("type", .string kind.name)]).text : Option Message) = none ∧
      ∀ (body : Value) (members : List (String × Value)), body.Exact →
        Envelope kind.name body members → (Value.object members).nesting ≤ 127 →
        Json.read (Value.object members).text =
          (Json.read body.text : Option kind.Body).map kind.make := by
  refine ⟨?_, Response.read_write, ?_, ?_⟩
  · intro m shallow
    exact read_write_of_decode m.exact_encode (m.decode_encode .outer (Nat.le_refl 127) shallow)
  · intro type other
    constructor
    · rw [read_bare, ofBody_of_not_mem_kinds other]
    · intro body members exact envelope shallow
      rw [read_envelope envelope exact shallow, ofBody_of_not_mem_kinds other]
  · intro kind known
    constructor
    · rw [read_bare, ofBody_null known]
    · intro body members exact envelope shallow
      rw [read_envelope envelope exact shallow, ofBody_of_mem_kinds known, read_text_eq exact]

/-- The status of a port, which is of none of the five types. -/
def portStatus : Value :=
  .object [("body", .object [("port", .integer 3)]), ("type", .string "PortStatus")]

def nestedDigest : Message :=
  .event (.digest ⟨5, 1, [.struct [.bitstring [0, 1], .tuple [.bool true]]], 0⟩)

theorem nested_digest_read_port_status_unknown :
    Json.read (Json.write nestedDigest) = some nestedDigest ∧
    Json.read (Json.write (Response.message nestedDigest)) =
      some (Response.message nestedDigest) ∧
    Json.read portStatus.text = some unknown ∧
    (Json.read (Value.object [("type", .string "Packet"), ("body", .bool true)]).text :
      Option Message) = none := by
  obtain ⟨messages, responses, others, known⟩ := written_is_read_and_type_decides
  have foreign : "PortStatus" ∉ kinds.map Kind.name := by simp [kinds]
  have exact : (Value.object [("port", .integer 3)]).Exact := by
    refine ⟨by simp, ?_, trivial⟩
    constructor <;> decide
  have packet : kinds[1] ∈ kinds := List.getElem_mem _
  refine ⟨messages nestedDigest (by decide), responses (.message nestedDigest) (by decide),
    (others "PortStatus" foreign).2 _ _ exact (Or.inr rfl) (by decide), ?_⟩
  exact (known kinds[1] packet).2 (.bool true) _ trivial (Or.inl rfl) (by decide)

end Message

end SwitchAgent.Device
