import SwitchAgent.Json.Form
import SwitchAgent.Device.WriteRequest

/-!
# Entities and write requests in JSON
-/

namespace SwitchAgent.Device

open Json

instance : Form FieldMatch where
  encode f := .object [("field_id", encode f.fieldId), ("exact", encode f.exact)]
  decode scope d := do
    let fields ← Fields.ofDocument ["field_id", "exact"] scope d
    return ⟨← fields.required "field_id", ← fields.required "exact"⟩

instance : Form ActionParam where
  encode p := .object [("param_id", encode p.paramId), ("value", encode p.value)]
  decode scope d := do
    let fields ← Fields.ofDocument ["param_id", "value"] scope d
    return ⟨← fields.required "param_id", ← fields.required "value"⟩

instance : Form ActionCall where
  encode a := .object [("action_id", encode a.actionId), ("params", encode a.params)]
  decode scope d := do
    let fields ← Fields.ofDocument ["action_id", "params"] scope d
    return ⟨← fields.required "action_id", ← fields.required "params"⟩

instance : Form TableEntry where
  encode e := .object [("table_id", encode e.tableId), ("matches", encode e.fields),
    ("action", match e.action with | none => .null | some a => encode a)]
  decode scope d := do
    let fields ← Fields.ofDocument ["table_id", "matches", "action"] scope d
    return ⟨← fields.required "table_id", ← fields.required "matches",
      ← fields.optional "action"⟩

instance : Form Replica where
  encode r := .object [("egress_port", encode r.egressPort), ("instance", encode r.instanceId)]
  decode scope d := do
    let fields ← Fields.ofDocument ["egress_port", "instance"] scope d
    return ⟨← fields.required "egress_port", ← fields.required "instance"⟩

instance : Form MulticastGroup where
  encode g := .object [("multicast_group_id", encode g.groupId), ("replicas", encode g.replicas)]
  decode scope d := do
    let fields ← Fields.ofDocument ["multicast_group_id", "replicas"] scope d
    return ⟨← fields.required "multicast_group_id", ← fields.required "replicas"⟩

instance : Form CloneSession where
  encode s := .object [("session_id", encode s.sessionId), ("replicas", encode s.replicas),
    ("class_of_service", encode s.classOfService), ("packet_length_bytes", encode s.packetLength)]
  decode scope d := do
    let fields ← Fields.ofDocument
      ["session_id", "replicas", "class_of_service", "packet_length_bytes"] scope d
    return ⟨← fields.required "session_id", ← fields.required "replicas",
      ← fields.required "class_of_service", ← fields.required "packet_length_bytes"⟩

instance : Form DigestConfig where
  encode c := .object [("max_timeout_ns", encode c.maxTimeout),
    ("max_list_size", encode c.maxListSize), ("ack_timeout_ns", encode c.ackTimeout)]
  decode scope d := do
    let fields ← Fields.ofDocument ["max_timeout_ns", "max_list_size", "ack_timeout_ns"] scope d
    return ⟨← fields.required "max_timeout_ns", ← fields.required "max_list_size",
      ← fields.required "ack_timeout_ns"⟩

instance : Form DigestEntry where
  encode e := .object [("digest_id", encode e.digestId), ("config", encode e.config)]
  decode scope d := do
    let fields ← Fields.ofDocument ["digest_id", "config"] scope d
    return ⟨← fields.required "digest_id", ← fields.required "config"⟩

instance : Form Entity where
  encode
    | .table e => encodeChoice "TableEntry" (encode e)
    | .multicast g => encodeChoice "MulticastGroupEntry" (encode g)
    | .clone s => encodeChoice "CloneSessionEntry" (encode s)
    | .digest e => encodeChoice "DigestEntry" (encode e)
  decode scope d := do
    let (name, content, scope) ← choiceContent scope d
    match name with
    | "TableEntry" => (Form.decode scope content).map .table
    | "MulticastGroupEntry" => (Form.decode scope content).map .multicast
    | "CloneSessionEntry" => (Form.decode scope content).map .clone
    | "DigestEntry" => (Form.decode scope content).map .digest
    | _ => none

def UpdateType.name : UpdateType → String
  | .insert => "Insert"
  | .modify => "Modify"
  | .delete => "Delete"

def UpdateType.ofName : String → Option UpdateType
  | "Insert" => some .insert
  | "Modify" => some .modify
  | "Delete" => some .delete
  | _ => none

instance : Form UpdateType where
  encode t := .string t.name
  decode scope d := (choiceName scope d).bind UpdateType.ofName

instance : Form Update where
  encode u := .object [("update_type", encode u.type), ("entity", encode u.entity)]
  decode scope d := do
    let fields ← Fields.ofDocument ["update_type", "entity"] scope d
    return ⟨← fields.required "update_type", ← fields.required "entity"⟩

instance : Form ElectionId where
  encode e := .object [("high", encode e.high), ("low", encode e.low)]
  decode scope d := do
    let fields ← Fields.ofDocument ["high", "low"] scope d
    return ⟨← fields.required "high", ← fields.required "low"⟩

def Atomicity.name : Atomicity → String
  | .continueOnError => "ContinueOnError"
  | .rollbackOnError => "RollbackOnError"
  | .dataplaneAtomic => "DataplaneAtomic"

def Atomicity.ofName : String → Option Atomicity
  | "ContinueOnError" => some .continueOnError
  | "RollbackOnError" => some .rollbackOnError
  | "DataplaneAtomic" => some .dataplaneAtomic
  | _ => none

instance : Form Atomicity where
  encode a := .string a.name
  decode scope d := (choiceName scope d).bind Atomicity.ofName

instance : Form WriteRequest where
  encode r := .object [("device_id", encode r.deviceId), ("election_id", encode r.electionId),
    ("atomicity", encode r.atomicity), ("updates", encode r.updates)]
  decode scope d := do
    let fields ← Fields.ofDocument ["device_id", "election_id", "atomicity", "updates"] scope d
    return ⟨← fields.required "device_id", ← fields.required "election_id",
      ← fields.required "atomicity", ← fields.required "updates"⟩

end SwitchAgent.Device
