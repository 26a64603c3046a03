import SwitchAgent.Address.IsdAs
import SwitchAgent.Telemetry.Hop
import SwitchAgent.Text.Numeral

/-!
# Telemetry packets

A packet that was cloned to the controller: the length of its headers in 8 bytes, the headers,
and the hops. The flow and its destination stand at the front of the headers; bitmasks and the
sizes of stack and hop are found from their end.
-/

namespace SwitchAgent.Telemetry

open Bytes

structure Packet where
  flowId : UInt32
  destination : UInt64
  intBitmask : UInt16
  scionBitmask : UInt16
  headers : List UInt8
  hops : List Hop
  deriving DecidableEq, Repr

namespace Packet

def lengthBytes : Nat := 8

/-- Where the destination stands in the headers. -/
def destinationOffset : Nat := 12

/-- How far before the end of the headers the size of the stack stands. -/
def stackFromEnd : Nat := 15

def hopFromEnd : Nat := 10

def intBitmaskFromEnd : Nat := 8

def scionBitmaskFromEnd : Nat := 4

/-- The size of the stack counts this much for its own header. -/
def stackHeader : Nat := 3

/-- The size of a hop has five bits. -/
def hopSizes : Nat := 32

/-- The length of the headers, if they are all there and long enough to be looked at. -/
def headerLength (payload : List UInt8) : Except Fault Nat :=
  match (Cursor.ofBytes payload).takeNumber lengthBytes with
  | .error _ => .error (.noHeaderLength payload.length)
  | .ok (length, c) =>
    if c.remaining < length.toNat then .error (.headerBeyond length.toNat payload.length)
    else if length.toNat < stackFromEnd then .error (.headerShort length.toNat)
    else .ok length.toNat

def hopCount (stack hop : Nat) : Except Fault Nat :=
  if stack < stackHeader then .error .stackTooSmall
  else if hop = 0 ∨ (stack - stackHeader) % hop ≠ 0 then
    .error (.stackUneven (stack - stackHeader) hop)
  else .ok ((stack - stackHeader) / hop)

def decode (payload : List UInt8) : Except Fault Packet := do
  let length ← headerLength payload
  let c := Cursor.ofBytes payload
  let start := lengthBytes
  let stop := start + length
  let headers ← c.slice start length
  let flowId ← c.peek 4 start
  let destination ← c.peek 8 (start + destinationOffset)
  let intBitmask := (← c.peek 2 (stop - intBitmaskFromEnd)).toUInt16
  let scionBitmask := (← c.peek 2 (stop - scionBitmaskFromEnd)).toUInt16
  let stack ← c.peek 1 (stop - stackFromEnd)
  let hop ← c.peek 1 (stop - hopFromEnd)
  let count ← hopCount stack.toNat (hop.toNat % hopSizes)
  let c ← c.seek stop
  let (hops, _) ← Hop.readMany (Hop.selected intBitmask scionBitmask) count c
  return ⟨flowId.toUInt32, destination, intBitmask, scionBitmask, headers, hops⟩

/-- The flow as the queue knows it, with the low 20 bits of its id. -/
def flowKey (p : Packet) : FlowKey :=
  ⟨p.flowId % 0x100000⟩

/-- The destination AS and the node that reports. -/
def topic (p : Packet) (nodeId : UInt32) : String :=
  "AS" ++ "_".intercalate ((IsdAs.groups p.destination).map Text.hex) ++ "-" ++
    Text.hex nodeId.toNat

def toReport (p : Packet) : Report where
  packetType := PacketType.scion.code
  truncatedPacket := p.headers
  hops := p.hops.map Hop.toNode

end Packet

end SwitchAgent.Telemetry
