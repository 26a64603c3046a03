import SwitchAgent.Device.Dialogue
import SwitchAgent.Proofs.Json.Forms

/-!
# What a switch says, read back

Every message and every reply is read back from the line that is written of it, as long as the
line does not nest too deep. Only data of digests nest at will.
-/

namespace SwitchAgent.Device

open Json

instance : Form.Lawful FieldMatch where
  exact _ := ⟨by simp, Form.Lawful.exact _, Form.Lawful.exact _, trivial⟩
  decode_encode f _ shallow := by
    refine Fields.decode_object (by simp) (by simp) shallow fun fields give => ?_
    have fieldId : fields.required "field_id" = some f.fieldId := give.required (by simp)
    have exact : fields.required "exact" = some f.exact := give.required (by simp)
    simp [fieldId, exact]

instance : Form.Lawful ActionParam where
  exact _ := ⟨by simp, Form.Lawful.exact _, Form.Lawful.exact _, trivial⟩
  decode_encode p _ shallow := by
    refine Fields.decode_object (by simp) (by simp) shallow fun fields give => ?_
    have paramId : fields.required "param_id" = some p.paramId := give.required (by simp)
    have value : fields.required "value" = some p.value := give.required (by simp)
    simp [paramId, value]

instance : Form.Lawful ActionCall where
  exact _ := ⟨by simp, Form.Lawful.exact _, Form.Lawful.exact _, trivial⟩
  decode_encode a _ shallow := by
    refine Fields.decode_object (by simp) (by simp) shallow fun fields give => ?_
    have actionId : fields.required "action_id" = some a.actionId := give.required (by simp)
    have params : fields.required "params" = some a.params := give.required (by simp)
    simp [actionId, params]

instance : Form.Lawful TableEntry where
  exact e := by
    refine ⟨by simp, Form.Lawful.exact _, Form.Lawful.exact _, ?_, trivial⟩
    cases e.action with
    | none => trivial
    | some a => exact Form.Lawful.exact a
  decode_encode e _ shallow := by
    refine Fields.decode_object (by simp) (by simp) shallow fun fields give => ?_
    have tableId : fields.required "table_id" = some e.tableId := give.required (by simp)
    have fieldMatches : fields.required "matches" = some e.fields := give.required (by simp)
    have action : fields.optional "action" = some e.action :=
      give.optional (fun _ => Document.noConfusion) (by cases e.action <;> simp)
    simp [tableId, fieldMatches, action]

instance : Form.Lawful ElectionId where
  exact _ := ⟨by simp, Form.Lawful.exact _, Form.Lawful.exact _, trivial⟩
  decode_encode e _ shallow := by
    refine Fields.decode_object (by simp) (by simp) shallow fun fields give => ?_
    have high : fields.required "high" = some e.high := give.required (by simp)
    have low : fields.required "low" = some e.low := give.required (by simp)
    simp [high, low]

instance : Form.Lawful Status where
  exact _ := ⟨by simp, Form.Lawful.exact _, Form.Lawful.exact _, trivial⟩
  decode_encode s _ shallow := by
    refine Fields.decode_object (by simp) (by simp) shallow fun fields give => ?_
    have code : fields.required "code" = some s.code := give.required (by simp)
    have message : fields.required "message" = some s.message := give.required (by simp)
    simp [code, message]

instance : Form.Lawful Arbitration where
  exact _ := ⟨by simp, Form.Lawful.exact _, Form.Lawful.exact _, Form.Lawful.exact _, trivial⟩
  decode_encode a _ shallow := by
    refine Fields.decode_object (by simp) (by simp) shallow fun fields give => ?_
    have deviceId : fields.required "device_id" = some a.deviceId := give.required (by simp)
    have electionId : fields.required "election_id" = some a.electionId := give.required (by simp)
    have status : fields.required "status" = some a.status := give.required (by simp)
    simp [deviceId, electionId, status]

instance : Form.Lawful PacketMetadata where
  exact _ := ⟨by simp, Form.Lawful.exact _, Form.Lawful.exact _, trivial⟩
  decode_encode m _ shallow := by
    refine Fields.decode_object (by simp) (by simp) shallow fun fields give => ?_
    have metadataId : fields.required "metadata_id" = some m.metadataId := give.required (by simp)
    have value : fields.required "value" = some m.value := give.required (by simp)
    simp [metadataId, value]

instance : Form.Lawful PacketIn where
  exact _ := ⟨by simp, Form.Lawful.exact _, Form.Lawful.exact _, trivial⟩
  decode_encode p _ shallow := by
    refine Fields.decode_object (by simp) (by simp) shallow fun fields give => ?_
    have payload : fields.required "payload" = some p.payload := give.required (by simp)
    have metadata : fields.withDefault "metadata" [] = some p.metadata :=
      give.withDefault (by simp) []
    simp [payload, metadata]

namespace Datum

mutual

theorem exact_encode (d : Datum) : (encode d).Exact := by
  cases d with
  | bitstring bytes => exact ⟨by simp, Form.Lawful.exact bytes, trivial⟩
  | bool b => exact ⟨by simp, trivial, trivial⟩
  | struct members => exact ⟨by simp, allExact_encodeAll members, trivial⟩
  | tuple members => exact ⟨by simp, allExact_encodeAll members, trivial⟩
termination_by structural d

theorem allExact_encodeAll (ds : List Datum) : Value.AllExact (encodeAll ds) := by
  cases ds with
  | nil => trivial
  | cons d ds => exact ⟨exact_encode d, allExact_encodeAll ds⟩
termination_by structural ds

end

mutual

theorem decodeAt_encode (buffered : Bool) (d : Datum) (depth : Nat)
    (shallow : (encode d).nesting ≤ depth) :
    decodeAt buffered depth (encode d).toDocument = some d := by
  cases depth with
  | zero => cases d <;> exact absurd shallow (Nat.not_succ_le_zero _)
  | succ depth =>
    cases d with
    | bitstring bytes =>
      rw [encode, encodeChoice_nesting] at shallow
      have content := Form.Lawful.decode_encode bytes ⟨depth, buffered⟩
        (Nat.le_of_succ_le_succ shallow)
      simp [encode, decodeAt, Literal.text?_ofString, content]
    | bool b => simp [encode, Value.toDocument, decodeAt, Literal.text?_ofString]
    | struct members =>
      rw [encode, encodeChoice_nesting, Value.nesting] at shallow
      obtain ⟨depth, rfl⟩ := Nat.exists_eq_add_of_lt (Nat.le_of_succ_le_succ shallow)
      have content := mapM_decodeAt_encodeAll buffered members _ (Nat.le_add_right _ depth)
      simp [encode, Value.toDocument, decodeAt, Literal.text?_ofString, content]
    | tuple members =>
      rw [encode, encodeChoice_nesting, Value.nesting] at shallow
      obtain ⟨depth, rfl⟩ := Nat.exists_eq_add_of_lt (Nat.le_of_succ_le_succ shallow)
      have content := mapM_decodeAt_encodeAll buffered members _ (Nat.le_add_right _ depth)
      simp [encode, Value.toDocument, decodeAt, Literal.text?_ofString, content]
termination_by structural d

theorem mapM_decodeAt_encodeAll (buffered : Bool) (ds : List Datum) (depth : Nat)
    (shallow : Value.itemNesting (encodeAll ds) ≤ depth) :
    (Value.toDocuments (encodeAll ds)).mapM (decodeAt buffered depth) = some ds := by
  cases ds with
  | nil => rfl
  | cons d ds =>
    rw [encodeAll, Value.itemNesting, Nat.max_le] at shallow
    have first := decodeAt_encode buffered d depth shallow.1
    have others := mapM_decodeAt_encodeAll buffered ds depth shallow.2
    simp [encodeAll, Value.toDocuments, first, others]
termination_by structural ds

end

end Datum

instance : Form.Lawful Datum where
  exact := Datum.exact_encode
  decode_encode d scope shallow := Datum.decodeAt_encode scope.buffered d scope.depth shallow

instance : Form.Lawful DigestList where
  exact _ := ⟨by simp, Form.Lawful.exact _, Form.Lawful.exact _, Form.Lawful.exact _,
    Form.Lawful.exact _, trivial⟩
  decode_encode l _ shallow := by
    refine Fields.decode_object (by simp) (by simp) shallow fun fields give => ?_
    have digestId : fields.required "digest_id" = some l.digestId := give.required (by simp)
    have listId : fields.required "list_id" = some l.listId := give.required (by simp)
    have data : fields.required "data" = some l.data := give.required (by simp)
    have timestamp : fields.withDefault "timestamp" 0 = some l.timestamp :=
      give.withDefault (by simp) 0
    simp [digestId, listId, data, timestamp]

instance : Form.Lawful IdleTimeout where
  exact _ := ⟨by simp, Form.Lawful.exact _, Form.Lawful.exact _, trivial⟩
  decode_encode n _ shallow := by
    refine Fields.decode_object (by simp) (by simp) shallow fun fields give => ?_
    have entries : fields.required "table_entry" = some n.entries := give.required (by simp)
    have timestamp : fields.withDefault "timestamp" 0 = some n.timestamp :=
      give.withDefault (by simp) 0
    simp [entries, timestamp]

instance : Form.Lawful StreamError where
  exact _ := ⟨by simp, Form.Lawful.exact _, Form.Lawful.exact _, trivial⟩
  decode_encode e _ shallow := by
    refine Fields.decode_object (by simp) (by simp) shallow fun fields give => ?_
    have code : fields.required "canonical_code" = some e.code := give.required (by simp)
    have message : fields.required "message" = some e.message := give.required (by simp)
    simp [code, message]

namespace Message

theorem exact_encode (m : Message) : (encode m).Exact := by
  cases m with
  | arbitration a => exact encodeTagged_exact _ (Form.Lawful.exact a)
  | event e =>
    cases e with
    | packet p => exact encodeTagged_exact _ (Form.Lawful.exact p)
    | digest l => exact encodeTagged_exact _ (Form.Lawful.exact l)
    | idleTimeout n => exact encodeTagged_exact _ (Form.Lawful.exact n)
    | error e => exact encodeTagged_exact _ (Form.Lawful.exact e)
  | unknown => exact ⟨by simp, trivial, trivial⟩

/-- The members of a message with a body, in either order. -/
def Envelope (type : String) (body : Value) (members : List (String × Value)) : Prop :=
  members = [("type", .string type), ("body", body)] ∨
    members = [("body", body), ("type", .string type)]

theorem Envelope.exact {type : String} {body : Value} {members : List (String × Value)}
    (envelope : Envelope type body members) (exact : body.Exact) :
    (Value.object members).Exact := by
  rcases envelope with rfl | rfl
  · exact ⟨by simp, trivial, exact, trivial⟩
  · exact ⟨by simp, exact, trivial, trivial⟩

/-- A message is what its type makes of its body. -/
theorem decode_envelope {type : String} {body : Value} {members : List (String × Value)}
    (envelope : Envelope type body members) (exact : body.Exact) {scope : Scope}
    (shallow : (Value.object members).nesting ≤ scope.depth) :
    Form.decode scope (Value.object members).toDocument = Message.ofBody type body := by
  have known : ∀ m ∈ members, m.1 ∈ ["type", "body"] := by
    rcases envelope with rfl | rfl <;> simp
  have distinct : (members.map Prod.fst).Nodup := by
    rcases envelope with rfl | rfl <;> simp
  refine Fields.decode_object known distinct shallow fun fields give => ?_
  have named : fields.required "type" = some type :=
    give.required (by rcases envelope with rfl | rfl <;> simp [encode])
  have content : fields.withDefault "body" .null = some body :=
    give.value exact (by rcases envelope with rfl | rfl <;> simp) .null
  simp [named, content]

/-- Without a body, null is taken for one. -/
theorem decode_bare (type : String) {scope : Scope} (room : 0 < scope.depth) :
    Form.decode scope (Value.object [("type", .string type)]).toDocument =
      Message.ofBody type .null := by
  refine Fields.decode_object (by simp) (by simp) room fun fields give => ?_
  have named : fields.required "type" = some type := give.required (by simp [encode])
  have content : fields.withDefault "body" Value.null = some .null := by
    refine give.absent ?_ Value.null
    simp
  simp [named, content]

/-- The body is read on its own, so no scope may go deeper than a document. -/
theorem decode_known {α : Type} [Form α] [Form.Lawful α] {make : α → Message} {a : α}
    {type : String} {scope : Scope} (within : scope.depth ≤ 127)
    (shallow : (encodeTagged type (encode a)).nesting ≤ scope.depth)
    (known : ∀ body, Message.ofBody type body = (readValue body).map make) :
    Form.decode scope (encodeTagged type (encode a)).toDocument = some (make a) := by
  have fits : (encode a).nesting ≤ 127 := by
    rw [encodeTagged_nesting] at shallow
    omega
  have decoded := decode_envelope (Or.inl rfl) (Form.Lawful.exact a) shallow
  rw [known, readValue_encode a fits, Option.map_some] at decoded
  exact decoded

theorem decode_encode (m : Message) (scope : Scope) (within : scope.depth ≤ 127)
    (shallow : (encode m).nesting ≤ scope.depth) :
    Form.decode scope (encode m).toDocument = some m := by
  cases m with
  | arbitration a => exact decode_known within shallow fun _ => rfl
  | event e =>
    cases e with
    | packet p => exact decode_known within shallow fun _ => rfl
    | digest l => exact decode_known within shallow fun _ => rfl
    | idleTimeout n => exact decode_known within shallow fun _ => rfl
    | error e => exact decode_known within shallow fun _ => rfl
  | unknown => exact decode_bare "Unknown" shallow

end Message

namespace Response

theorem exact_encode (r : Response) : (encode r).Exact := by
  cases r with
  | message m => exact encodeTagged_exact _ m.exact_encode
  | reply s => exact encodeTagged_exact _ (Form.Lawful.exact s)

/-- What a switch writes on a line is read from it. -/
theorem read_write (r : Response) (shallow : (encode r).nesting ≤ 127) :
    Json.read (Json.write r) = some r := by
  refine Json.read_write_of_decode r.exact_encode (Option.bind_eq_some_iff.mpr ?_)
  cases r with
  | message m =>
    obtain ⟨inner, opened, fits, within⟩ :=
      Tagged.ofDocument_encodeTagged "Stream" (encode m) .outer shallow
    have content := m.decode_encode inner within fits
    exact ⟨_, opened, by simp [content]⟩
  | reply s =>
    obtain ⟨inner, opened, fits, within⟩ :=
      Tagged.ofDocument_encodeTagged "Reply" (encode s) .outer shallow
    have content := Form.Lawful.decode_encode s inner fits
    exact ⟨_, opened, by simp [content]⟩

/-- A reply never nests too deep. -/
theorem nesting_reply (s : Status) : (encode (Response.reply s)).nesting = 2 := rfl

end Response

end SwitchAgent.Device
