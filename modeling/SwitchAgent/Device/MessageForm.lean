import SwitchAgent.Device.EntityForm
import SwitchAgent.Device.Message

/-!
# Messages in JSON

A message is an envelope around a free-form body. The body is looked at only once the type is
known, so a message of unknown type is a message, and one of known type with a bad body is not.
-/

namespace SwitchAgent.Device

open Json

instance : Form Status where
  encode s := .object [("code", encode s.code), ("message", encode s.message)]
  decode scope d := do
    let fields ← Fields.ofDocument ["code", "message"] scope d
    return ⟨← fields.required "code", ← fields.required "message"⟩

instance : Form Arbitration where
  encode a := .object [("device_id", encode a.deviceId), ("election_id", encode a.electionId),
    ("status", encode a.status)]
  decode scope d := do
    let fields ← Fields.ofDocument ["device_id", "election_id", "status"] scope d
    return ⟨← fields.required "device_id", ← fields.required "election_id",
      ← fields.required "status"⟩

instance : Form PacketMetadata where
  encode m := .object [("metadata_id", encode m.metadataId), ("value", encode m.value)]
  decode scope d := do
    let fields ← Fields.ofDocument ["metadata_id", "value"] scope d
    return ⟨← fields.required "metadata_id", ← fields.required "value"⟩

instance : Form PacketIn where
  encode p := .object [("payload", encode p.payload), ("metadata", encode p.metadata)]
  decode scope d := do
    let fields ← Fields.ofDocument ["payload", "metadata"] scope d
    return ⟨← fields.required "payload", ← fields.withDefault "metadata" []⟩

namespace Datum

mutual

def encode : Datum → Value
  | .bitstring bytes => encodeChoice "Bitstring" (Json.encode bytes)
  | .bool b => encodeChoice "Bool" (.bool b)
  | .struct members => encodeChoice "Struct" (.array (encodeAll members))
  | .tuple members => encodeChoice "Tuple" (.array (encodeAll members))
termination_by structural d => d

def encodeAll : List Datum → List Value
  | [] => []
  | d :: ds => encode d :: encodeAll ds
termination_by structural ds => ds

end

/-- A datum takes a level for its choice, and one more for its members. -/
def decodeAt (buffered : Bool) : Nat → Document → Option Datum
  | 0, _ => none
  | depth + 1, d =>
    match d with
    | .object [(key, content)] =>
      match key.text?, depth, content with
      | some "Bitstring", depth, content =>
        (Form.decode ⟨depth, buffered⟩ content).map .bitstring
      | some "Bool", _, .bool b => some (.bool b)
      | some "Struct", depth + 1, .array items =>
        (items.mapM (decodeAt buffered depth)).map .struct
      | some "Tuple", depth + 1, .array items =>
        (items.mapM (decodeAt buffered depth)).map .tuple
      | _, _, _ => none
    | _ => none

end Datum

instance : Form Datum where
  encode := Datum.encode
  decode scope := Datum.decodeAt scope.buffered scope.depth

instance : Form DigestList where
  encode l := .object [("digest_id", encode l.digestId), ("list_id", encode l.listId),
    ("data", encode l.data), ("timestamp", encode l.timestamp)]
  decode scope d := do
    let fields ← Fields.ofDocument ["digest_id", "list_id", "data", "timestamp"] scope d
    return ⟨← fields.required "digest_id", ← fields.required "list_id",
      ← fields.required "data", ← fields.withDefault "timestamp" 0⟩

instance : Form IdleTimeout where
  encode n := .object [("table_entry", encode n.entries), ("timestamp", encode n.timestamp)]
  decode scope d := do
    let fields ← Fields.ofDocument ["table_entry", "timestamp"] scope d
    return ⟨← fields.required "table_entry", ← fields.withDefault "timestamp" 0⟩

instance : Form StreamError where
  encode e := .object [("canonical_code", encode e.code), ("message", encode e.message)]
  decode scope d := do
    let fields ← Fields.ofDocument ["canonical_code", "message"] scope d
    return ⟨← fields.required "canonical_code", ← fields.required "message"⟩

/-- The message of a type, if the body fits it. -/
def Message.ofBody (type : String) (body : Value) : Option Message :=
  match type with
  | "Arbitration" => (readValue body).map .arbitration
  | "Packet" => (readValue body).map fun p => .event (.packet p)
  | "Digest" => (readValue body).map fun l => .event (.digest l)
  | "IdleTimeoutNotification" => (readValue body).map fun n => .event (.idleTimeout n)
  | "Error" => (readValue body).map fun e => .event (.error e)
  | _ => some .unknown

instance : Form Message where
  encode
    | .arbitration a => encodeTagged "Arbitration" (encode a)
    | .event (.packet p) => encodeTagged "Packet" (encode p)
    | .event (.digest l) => encodeTagged "Digest" (encode l)
    | .event (.idleTimeout n) => encodeTagged "IdleTimeoutNotification" (encode n)
    | .event (.error e) => encodeTagged "Error" (encode e)
    | .unknown => .object [("type", .string "Unknown")]
  decode scope d := do
    let fields ← Fields.ofDocument ["type", "body"] scope d
    let type : String ← fields.required "type"
    let body : Value ← fields.withDefault "body" .null
    Message.ofBody type body

end SwitchAgent.Device
