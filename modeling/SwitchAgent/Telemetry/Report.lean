import SwitchAgent.Protobuf.Wire
import SwitchAgent.Telemetry.Metadata

/-!
# Telemetry reports

The messages that collectors read. Default values are not written, in the entries of a map
neither. A reader knows its own fields, the last value of a number counts, and an entry of a map
is read whatever wire type its key announces.
-/

namespace SwitchAgent.Telemetry

open Protobuf

/-- The key of a report in a message queue. -/
structure FlowKey where
  flowId : UInt32
  deriving DecidableEq, Repr

structure Node where
  nodeId : UInt32
  asn : UInt64
  metadata : Metadata
  deriving DecidableEq

structure Report where
  packetType : Int32
  truncatedPacket : List UInt8
  hops : List Node
  deriving DecidableEq

inductive PacketType where
  | unknown
  | scion
  deriving DecidableEq, Repr

namespace PacketType

def code : PacketType → Int32
  | unknown => 0
  | scion => 1

def ofCode (code : Int32) : PacketType :=
  if code = 1 then scion else unknown

def name : PacketType → String
  | unknown => "Unknown"
  | scion => "Scion"

end PacketType

def word32 (n : Nat) : UInt32 :=
  UInt32.ofNat n

namespace FlowKey

def encode (k : FlowKey) : List UInt8 :=
  varintField 1 k.flowId.toNat

def merge : Merge FlowKey := fun k key bytes =>
  match key.number with
  | 1 => (readVarint key bytes).map fun (n, rest) => ({ k with flowId := word32 n }, rest)
  | _ => (skip nesting key bytes).map fun rest => (k, rest)

def decode (bytes : List UInt8) : Option FlowKey :=
  readMessage merge ⟨0⟩ bytes

end FlowKey

namespace Node

def empty : Node :=
  ⟨0, 0, .empty⟩

def encodeEntry (entry : UInt32 × List UInt8) : List UInt8 :=
  delimitedField 3 (varintField 1 entry.1.toNat ++ bytesField 2 entry.2)

def encode (node : Node) : List UInt8 :=
  varintField 1 node.nodeId.toNat ++ varintField 2 node.asn.toNat ++
    node.metadata.entries.flatMap encodeEntry

def mergeEntry (depth : Nat) : Merge (UInt32 × List UInt8) := fun entry key bytes =>
  match key.number with
  | 1 => (readVarint key bytes).map fun (n, rest) => ((word32 n, entry.2), rest)
  | 2 => (readBytes key bytes).map fun (value, rest) => ((entry.1, value), rest)
  | _ => (skip depth key bytes).map fun rest => (entry, rest)

def merge (depth : Nat) : Merge Node := fun node key bytes =>
  match key.number with
  | 1 => (readVarint key bytes).map fun (n, rest) => ({ node with nodeId := word32 n }, rest)
  | 2 => (readVarint key bytes).map fun (n, rest) => ({ node with asn := UInt64.ofNat n }, rest)
  | 3 => do
    let (content, rest) ← readDelimited bytes
    let entry ← readMessage (mergeEntry (depth - 1)) (0, []) content
    return ({ node with metadata := node.metadata.insert entry.1 entry.2 }, rest)
  | _ => (skip depth key bytes).map fun rest => (node, rest)

def decodeWithin (depth : Nat) (bytes : List UInt8) : Option Node :=
  readMessage (merge depth) empty bytes

def decode (bytes : List UInt8) : Option Node :=
  decodeWithin nesting bytes

end Node

namespace Report

/-- A negative number takes ten bytes. -/
def encode (report : Report) : List UInt8 :=
  varintField 1 report.packetType.toInt64.toUInt64.toNat ++
    bytesField 2 report.truncatedPacket ++
    report.hops.flatMap fun node => delimitedField 3 node.encode

def merge : Merge Report := fun report key bytes =>
  match key.number with
  | 1 => (readVarint key bytes).map fun (n, rest) =>
    ({ report with packetType := (word32 n).toInt32 }, rest)
  | 2 => (readBytes key bytes).map fun (value, rest) =>
    ({ report with truncatedPacket := value }, rest)
  | 3 => do
    let (content, rest) ← readBytes key bytes
    let node ← Node.decodeWithin (nesting - 1) content
    return ({ report with hops := report.hops ++ [node] }, rest)
  | _ => (skip nesting key bytes).map fun rest => (report, rest)

def decode (bytes : List UInt8) : Option Report :=
  readMessage merge ⟨0, [], []⟩ bytes

end Report

end SwitchAgent.Telemetry
