import SwitchAgent.Device.WriteRequest

/-!
# What a switch reports

Arbitration updates concern every controller. The other messages of known type are events,
which one controller handles. A message of unknown type carries nothing.
-/

namespace SwitchAgent.Device

/-- Code 0 means success. -/
structure Status where
  code : Int32
  message : String
  deriving DecidableEq, Repr

def Status.isOk (status : Status) : Bool :=
  status.code == 0

structure Arbitration where
  deviceId : UInt64
  electionId : ElectionId
  status : Status
  deriving DecidableEq, Repr

/-- Whether this controller was elected. -/
def Arbitration.isPrimary (update : Arbitration) : Bool :=
  update.status.isOk

structure PacketMetadata where
  metadataId : UInt32
  value : List UInt8
  deriving DecidableEq, Repr

structure PacketIn where
  payload : List UInt8
  metadata : List PacketMetadata
  deriving DecidableEq, Repr

/-- Typed data in a digest. -/
inductive Datum where
  | bitstring (bytes : List UInt8)
  | bool (value : Bool)
  | struct (members : List Datum)
  | tuple (members : List Datum)
  deriving BEq, Repr

structure DigestList where
  digestId : UInt32
  listId : UInt64
  data : List Datum
  timestamp : Int64
  deriving BEq, Repr

structure IdleTimeout where
  entries : List TableEntry
  timestamp : Int64
  deriving DecidableEq, Repr

structure StreamError where
  code : Int32
  message : String
  deriving DecidableEq, Repr

inductive Event where
  | packet (content : PacketIn)
  | digest (content : DigestList)
  | idleTimeout (content : IdleTimeout)
  | error (content : StreamError)
  deriving BEq, Repr

inductive Message where
  | arbitration (update : Arbitration)
  | event (content : Event)
  | unknown
  deriving BEq, Repr

def Event.text : Event → String
  | .packet p => s!"packet-in ({p.payload.length} bytes)"
  | .digest l => s!"digest list {l.listId} of digest {l.digestId} ({l.data.length} entries)"
  | .idleTimeout n => s!"idle timeout ({n.entries.length} entries)"
  | .error e => s!"stream error {e.code}"

def Message.text : Message → String
  | .arbitration u => s!"arbitration update (status {u.status.code})"
  | .event e => e.text
  | .unknown => "unknown message"

end SwitchAgent.Device
