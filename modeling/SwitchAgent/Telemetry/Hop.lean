import SwitchAgent.Bytes.Cursor
import SwitchAgent.Telemetry.Report

/-!
# Hops

What one switch on the way of a packet has recorded. Two bitmasks say which fields it was asked
for; they stand one after the other in the order given here, each with a width of its own.
-/

namespace SwitchAgent.Telemetry

open Bytes

namespace Hop

inductive Field where
  | nodeId
  | l1Interface
  | hopLatency
  | queueOccupancy
  | ingressTimestamp
  | egressTimestamp
  | l2Interface
  | egressUtilization
  | bufferOccupancy
  | asn
  deriving DecidableEq, Repr

namespace Field

/-- All fields, in the order in which a hop holds them. -/
def all : List Field :=
  [nodeId, l1Interface, hopLatency, queueOccupancy, ingressTimestamp, egressTimestamp,
    l2Interface, egressUtilization, bufferOccupancy, asn]

def width : Field → Nat
  | ingressTimestamp | egressTimestamp | l2Interface | asn => 8
  | _ => 4

/-- The bit that asks for a field. The AS has a bitmask of its own. -/
def bit : Field → Nat
  | nodeId => 15
  | l1Interface => 14
  | hopLatency => 13
  | queueOccupancy => 12
  | ingressTimestamp => 11
  | egressTimestamp => 10
  | l2Interface => 9
  | egressUtilization => 8
  | bufferOccupancy => 7
  | asn => 0

def isSelected (intBitmask scionBitmask : UInt16) : Field → Bool
  | asn => scionBitmask.toNat.testBit asn.bit
  | f => intBitmask.toNat.testBit f.bit

/-- Switches count time in microseconds, reports in nanoseconds. -/
def scale : Field → UInt64
  | ingressTimestamp | egressTimestamp => 1000
  | _ => 1

/-- The key of a field in a report. Node and AS have places of their own. -/
def metadataKey? : Field → Option UInt32
  | nodeId | asn => none
  | l1Interface => some 1
  | hopLatency => some 2
  | queueOccupancy => some 3
  | ingressTimestamp => some 4
  | egressTimestamp => some 5
  | l2Interface => some 6
  | egressUtilization => some 7
  | bufferOccupancy => some 8

end Field

def selected (intBitmask scionBitmask : UInt16) : List Field :=
  Field.all.filter (Field.isSelected intBitmask scionBitmask)

end Hop

/-- What was recorded; a field that was not asked for is absent. -/
structure Hop where
  nodeId : Option UInt32 := none
  l1Interface : Option UInt32 := none
  hopLatency : Option UInt32 := none
  queueOccupancy : Option UInt32 := none
  ingressTimestamp : Option UInt64 := none
  egressTimestamp : Option UInt64 := none
  l2Interface : Option UInt64 := none
  egressUtilization : Option UInt32 := none
  bufferOccupancy : Option UInt32 := none
  asn : Option UInt64 := none
  deriving DecidableEq, Repr

namespace Hop

def get (hop : Hop) : Field → Option Nat
  | .nodeId => hop.nodeId.map UInt32.toNat
  | .l1Interface => hop.l1Interface.map UInt32.toNat
  | .hopLatency => hop.hopLatency.map UInt32.toNat
  | .queueOccupancy => hop.queueOccupancy.map UInt32.toNat
  | .ingressTimestamp => hop.ingressTimestamp.map UInt64.toNat
  | .egressTimestamp => hop.egressTimestamp.map UInt64.toNat
  | .l2Interface => hop.l2Interface.map UInt64.toNat
  | .egressUtilization => hop.egressUtilization.map UInt32.toNat
  | .bufferOccupancy => hop.bufferOccupancy.map UInt32.toNat
  | .asn => hop.asn.map UInt64.toNat

/-- The hop of which these fields were read. -/
def ofReadings (readings : List (Field × UInt64)) : Hop where
  nodeId := (readings.lookup .nodeId).map UInt64.toUInt32
  l1Interface := (readings.lookup .l1Interface).map UInt64.toUInt32
  hopLatency := (readings.lookup .hopLatency).map UInt64.toUInt32
  queueOccupancy := (readings.lookup .queueOccupancy).map UInt64.toUInt32
  ingressTimestamp := readings.lookup .ingressTimestamp
  egressTimestamp := readings.lookup .egressTimestamp
  l2Interface := readings.lookup .l2Interface
  egressUtilization := (readings.lookup .egressUtilization).map UInt64.toUInt32
  bufferOccupancy := (readings.lookup .bufferOccupancy).map UInt64.toUInt32
  asn := readings.lookup .asn

def readFields : List Field → Cursor → Except Fault (List (Field × UInt64) × Cursor)
  | [], c => .ok ([], c)
  | f :: fs, c => do
    let (n, c) ← c.takeNumber f.width
    let (readings, c) ← readFields fs c
    return ((f, n * f.scale) :: readings, c)

def read (fields : List Field) (c : Cursor) : Except Fault (Hop × Cursor) := do
  let (readings, c) ← readFields fields c
  return (ofReadings readings, c)

def readMany (fields : List Field) : Nat → Cursor → Except Fault (List Hop × Cursor)
  | 0, c => .ok ([], c)
  | n + 1, c => do
    let (hop, c) ← read fields c
    let (hops, c) ← readMany fields n c
    return (hop :: hops, c)

/-- A field of a report: its key, and its value as wide as it stood in the hop. -/
def metadataEntry? (hop : Hop) (f : Field) : Option (UInt32 × List UInt8) := do
  return (← f.metadataKey?, Bitstring.encode f.width (← hop.get f))

def toNode (hop : Hop) : Node where
  nodeId := hop.nodeId.getD 0
  asn := hop.asn.getD 0
  metadata := .ofList (Field.all.filterMap hop.metadataEntry?)

end Hop

end SwitchAgent.Telemetry
