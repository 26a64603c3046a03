import SwitchAgent.Proofs.Device.Forms

/-!
# What a controller asks, read back

Every request is read back from what is written of it, as long as the catalog of a program can be
written at all and nothing nests too deep.
-/

namespace SwitchAgent.Device

open Json

instance : Form.Lawful Replica where
  exact _ := ⟨by simp, Form.Lawful.exact _, Form.Lawful.exact _, trivial⟩
  decode_encode r _ shallow := by
    refine Fields.decode_object (by simp) (by simp) shallow fun fields give => ?_
    have egressPort : fields.required "egress_port" = some r.egressPort := give.required (by simp)
    have instanceId : fields.required "instance" = some r.instanceId := give.required (by simp)
    simp [egressPort, instanceId]

instance : Form.Lawful MulticastGroup where
  exact _ := ⟨by simp, Form.Lawful.exact _, Form.Lawful.exact _, trivial⟩
  decode_encode g _ shallow := by
    refine Fields.decode_object (by simp) (by simp) shallow fun fields give => ?_
    have groupId : fields.required "multicast_group_id" = some g.groupId :=
      give.required (by simp)
    have replicas : fields.required "replicas" = some g.replicas := give.required (by simp)
    simp [groupId, replicas]

instance : Form.Lawful CloneSession where
  exact _ := ⟨by simp, Form.Lawful.exact _, Form.Lawful.exact _, Form.Lawful.exact _,
    Form.Lawful.exact _, trivial⟩
  decode_encode s _ shallow := by
    refine Fields.decode_object (by simp) (by simp) shallow fun fields give => ?_
    have sessionId : fields.required "session_id" = some s.sessionId := give.required (by simp)
    have replicas : fields.required "replicas" = some s.replicas := give.required (by simp)
    have classOfService : fields.required "class_of_service" = some s.classOfService :=
      give.required (by simp)
    have packetLength : fields.required "packet_length_bytes" = some s.packetLength :=
      give.required (by simp)
    simp [sessionId, replicas, classOfService, packetLength]

instance : Form.Lawful DigestConfig where
  exact _ := ⟨by simp, Form.Lawful.exact _, Form.Lawful.exact _, Form.Lawful.exact _, trivial⟩
  decode_encode c _ shallow := by
    refine Fields.decode_object (by simp) (by simp) shallow fun fields give => ?_
    have maxTimeout : fields.required "max_timeout_ns" = some c.maxTimeout :=
      give.required (by simp)
    have maxListSize : fields.required "max_list_size" = some c.maxListSize :=
      give.required (by simp)
    have ackTimeout : fields.required "ack_timeout_ns" = some c.ackTimeout :=
      give.required (by simp)
    simp [maxTimeout, maxListSize, ackTimeout]

instance : Form.Lawful DigestEntry where
  exact _ := ⟨by simp, Form.Lawful.exact _, Form.Lawful.exact _, trivial⟩
  decode_encode e _ shallow := by
    refine Fields.decode_object (by simp) (by simp) shallow fun fields give => ?_
    have digestId : fields.required "digest_id" = some e.digestId := give.required (by simp)
    have config : fields.required "config" = some e.config := give.required (by simp)
    simp [digestId, config]

instance : Form.Lawful Entity where
  exact e := by
    cases e with
    | table e => exact ⟨by simp, Form.Lawful.exact e, trivial⟩
    | multicast g => exact ⟨by simp, Form.Lawful.exact g, trivial⟩
    | clone s => exact ⟨by simp, Form.Lawful.exact s, trivial⟩
    | digest e => exact ⟨by simp, Form.Lawful.exact e, trivial⟩
  decode_encode e _ shallow := by
    cases e with
    | table e => exact decode_choice shallow fun _ _ => rfl
    | multicast g => exact decode_choice shallow fun _ _ => rfl
    | clone s => exact decode_choice shallow fun _ _ => rfl
    | digest e => exact decode_choice shallow fun _ _ => rfl

instance : Form.Lawful UpdateType where
  exact _ := trivial
  decode_encode t scope _ := by
    refine Option.bind_eq_some_iff.mpr ⟨t.name, choiceName_string t.name scope, ?_⟩
    cases t <;> rfl

instance : Form.Lawful Atomicity where
  exact _ := trivial
  decode_encode a scope _ := by
    refine Option.bind_eq_some_iff.mpr ⟨a.name, choiceName_string a.name scope, ?_⟩
    cases a <;> rfl

instance : Form.Lawful Update where
  exact _ := ⟨by simp, Form.Lawful.exact _, Form.Lawful.exact _, trivial⟩
  decode_encode u _ shallow := by
    refine Fields.decode_object (by simp) (by simp) shallow fun fields give => ?_
    have type : fields.required "update_type" = some u.type := give.required (by simp)
    have entity : fields.required "entity" = some u.entity := give.required (by simp)
    simp [type, entity]

instance : Form.Lawful WriteRequest where
  exact _ := ⟨by simp, Form.Lawful.exact _, Form.Lawful.exact _, Form.Lawful.exact _,
    Form.Lawful.exact _, trivial⟩
  decode_encode r _ shallow := by
    refine Fields.decode_object (by simp) (by simp) shallow fun fields give => ?_
    have deviceId : fields.required "device_id" = some r.deviceId := give.required (by simp)
    have electionId : fields.required "election_id" = some r.electionId := give.required (by simp)
    have atomicity : fields.required "atomicity" = some r.atomicity := give.required (by simp)
    have updates : fields.required "updates" = some r.updates := give.required (by simp)
    simp [deviceId, electionId, atomicity, updates]

namespace Request

/-- The catalog of the request can be written and read again. -/
def Exact : Request → Prop
  | .setPipeline _ _ catalog _ => catalog.Exact
  | _ => True

theorem exact_encode {request : Request} (exact : request.Exact) : (encode request).Exact := by
  cases request with
  | arbitration deviceId electionId =>
    exact encodeTagged_exact _ ⟨by simp, Form.Lawful.exact deviceId, Form.Lawful.exact electionId,
      trivial⟩
  | setPipeline deviceId electionId catalog config =>
    exact encodeTagged_exact _ ⟨by simp, Form.Lawful.exact deviceId, Form.Lawful.exact electionId,
      exact, Form.Lawful.exact config, trivial⟩
  | write request => exact encodeTagged_exact _ (Form.Lawful.exact request)
  | acknowledge digestId listId =>
    exact encodeTagged_exact _ ⟨by simp, Form.Lawful.exact digestId, Form.Lawful.exact listId,
      trivial⟩

theorem read_write {request : Request} (exact : request.Exact)
    (shallow : (encode request).nesting ≤ 127) :
    Json.read (Json.write request) = some request := by
  refine Json.read_write_of_decode (exact_encode exact) (Option.bind_eq_some_iff.mpr ?_)
  cases request with
  | arbitration deviceId electionId =>
    obtain ⟨inner, opened, fits, -⟩ :=
      Tagged.ofDocument_encodeTagged "Arbitration" _ .outer shallow
    refine ⟨_, opened, Fields.decode_object (by simp) (by simp) fits fun fields give => ?_⟩
    have device : fields.required "device_id" = some deviceId := give.required (by simp)
    have election : fields.required "election_id" = some electionId := give.required (by simp)
    simp [device, election]
  | setPipeline deviceId electionId catalog config =>
    obtain ⟨inner, opened, fits, -⟩ :=
      Tagged.ofDocument_encodeTagged "SetPipelineConfig" _ .outer shallow
    refine ⟨_, opened, Fields.decode_object (by simp) (by simp) fits fun fields give => ?_⟩
    have device : fields.required "device_id" = some deviceId := give.required (by simp)
    have election : fields.required "election_id" = some electionId := give.required (by simp)
    have document : fields.required "p4info" = some catalog :=
      give.requiredValue exact (by simp)
    have program : fields.required "p4_device_config" = some config := give.required (by simp)
    simp [device, election, document, program]
  | write request =>
    obtain ⟨inner, opened, fits, -⟩ :=
      Tagged.ofDocument_encodeTagged "Write" (encode request) .outer shallow
    have content := Form.Lawful.decode_encode request inner fits
    exact ⟨_, opened, by simp [content]⟩
  | acknowledge digestId listId =>
    obtain ⟨inner, opened, fits, -⟩ :=
      Tagged.ofDocument_encodeTagged "DigestAck" _ .outer shallow
    refine ⟨_, opened, Fields.decode_object (by simp) (by simp) fits fun fields give => ?_⟩
    have digest : fields.required "digest_id" = some digestId := give.required (by simp)
    have list : fields.required "list_id" = some listId := give.required (by simp)
    simp [digest, list]

end Request

end SwitchAgent.Device
