import SwitchAgent.Device.MessageForm

/-!
# The dialogue with a switch

What the controller says and what the switch answers, each one line of JSON. A reply completes
the oldest call that waits for one; everything else from the switch is a message.
-/

namespace SwitchAgent.Device

open Json

inductive Request where
  | arbitration (deviceId : UInt64) (electionId : ElectionId)
  | setPipeline (deviceId : UInt64) (electionId : ElectionId) (catalog : Value)
      (config : List UInt8)
  | write (request : WriteRequest)
  | acknowledge (digestId : UInt32) (listId : UInt64)
  deriving BEq, Repr

inductive Response where
  | message (message : Message)
  | reply (status : Status)
  deriving BEq, Repr

instance : Form Request where
  encode
    | .arbitration deviceId electionId => encodeTagged "Arbitration" (.object
        [("device_id", encode deviceId), ("election_id", encode electionId)])
    | .setPipeline deviceId electionId catalog config => encodeTagged "SetPipelineConfig" (.object
        [("device_id", encode deviceId), ("election_id", encode electionId),
          ("p4info", catalog), ("p4_device_config", encode config)])
    | .write request => encodeTagged "Write" (encode request)
    | .acknowledge digestId listId => encodeTagged "DigestAck" (.object
        [("digest_id", encode digestId), ("list_id", encode listId)])
  decode scope d := do
    let (tag, body, scope) ← Tagged.ofDocument scope d
    match tag with
    | "Arbitration" => do
      let fields ← Fields.ofObject ["device_id", "election_id"] scope body
      return .arbitration (← fields.required "device_id") (← fields.required "election_id")
    | "SetPipelineConfig" => do
      let fields ← Fields.ofObject ["device_id", "election_id", "p4info", "p4_device_config"]
        scope body
      return .setPipeline (← fields.required "device_id") (← fields.required "election_id")
        (← fields.required "p4info") (← fields.required "p4_device_config")
    | "Write" => (Form.decode scope body).map .write
    | "DigestAck" => do
      let fields ← Fields.ofObject ["digest_id", "list_id"] scope body
      return .acknowledge (← fields.required "digest_id") (← fields.required "list_id")
    | _ => none

instance : Form Response where
  encode
    | .message m => encodeTagged "Stream" (encode m)
    | .reply s => encodeTagged "Reply" (encode s)
  decode scope d := do
    let (tag, body, scope) ← Tagged.ofDocument scope d
    match tag with
    | "Stream" => (Form.decode scope body).map .message
    | "Reply" => (Form.decode scope body).map .reply
    | _ => none

end SwitchAgent.Device
