import SwitchAgent.Control.Controller
import SwitchAgent.Device.Profile
import SwitchAgent.Learning.Entries

/-!
# Address learning

The switch sends a digest for each source address it does not know. The address is then put
into both tables; a digest with a bad entry installs nothing. Packets for unknown addresses
are flooded, for which an election sets up a group for each port.
-/

namespace SwitchAgent.Learning

open Bytes Control Device Pipeline

/-- Where an address was seen. -/
structure Sighting where
  mac : Nat
  port : Nat
  deriving DecidableEq, Repr

namespace Sighting

def ofDatum : Datum → Except Fault Sighting
  | .struct [.bitstring mac, .bitstring port] =>
    if mac.length = 6 ∧ port.length = 2 then
      .ok ⟨Bitstring.decode 6 mac, Bitstring.decode 2 port⟩
    else .error (.digestWidths mac.length port.length)
  | .struct [_, _] => .error .digestMembers
  | _ => .error .digestShape

def text (s : Sighting) : String :=
  s!"MAC 0x{Text.hexPadded 12 s.mac} is behind port {s.port}"

/-- The address makes no more digests, and packets for it go out by its port. -/
def entities (s : Sighting) : List Entity :=
  [.table (learnEntry s.mac noAction), .table (forwardEntry s.mac s.port)]

variable {σ : Type}

/-- Read the entries of a digest list up to the first bad one. -/
def readAll : List Datum → Action σ (Except Fault (List Sighting))
  | [] => return .ok []
  | d :: ds =>
    match ofDatum d with
    | .error fault => return .error fault
    | .ok sighting => do
      Action.info s!"Learned: {sighting.text}"
      return (← readAll ds).map (sighting :: ·)

end Sighting

structure Controller where
  digestId : UInt32
  ports : Nat
  deriving DecidableEq, Repr

namespace Controller

def digestName : String := "macLearnMsg_t"

def create {σ : Type} (catalog : Catalog) (profile : Profile) :
    Action σ (Except Fault Controller) :=
  match catalog.digestId digestName with
  | none => return .error (.missingDigest digestName)
  | some digestId => do
    Action.debug s!"MAC learn digest id is 0x{Text.hex digestId.toNat}"
    return .ok ⟨digestId, profile.ports.toNat⟩

def floodGroups (c : Controller) : List Entity :=
  (List.range c.ports).map fun port => .multicast (floodGroup port c.ports)

/-- What is known from the start need not be learned. -/
def staticEntries : List Entity :=
  [.table (learnEntry broadcast noAction)]

def digestEntries (c : Controller) : List Entity :=
  [.digest (immediateDigest c.digestId)]

/-- What an election installs, batch by batch. -/
def batches (c : Controller) : List (String × List Entity) :=
  [("flood multicast groups", c.floodGroups), ("static table entries", staticEntries),
    ("digest config", c.digestEntries)]

variable {C : Type} [Channel C]

/-- Learn from a digest list and acknowledge it. -/
def learn (list : DigestList) : Action C (Except Fault Bool) := do
  match ← Sighting.readAll list.data with
  | .error fault => return .error fault
  | .ok [] => do
    Action.debug s!"Digest list {list.listId} carries no entries"
    return (← Channel.acknowledge list.digestId list.listId).map fun _ => true
  | .ok sightings => do
    match ← Channel.insertAll (sightings.flatMap Sighting.entities) with
    | .ok _ => pure ()
    | .error fault => Action.warn s!"Installing learned addresses failed: {fault.message}"
    return (← Channel.acknowledge list.digestId list.listId).map fun _ => true

instance : Control.Controller Controller C where
  name _ := "mac-learning"
  arbitrate c update := do
    if update.isPrimary then Channel.installAll c.batches
    return (c, .ok ())
  handle c
    | .digest list => do
      if list.digestId = c.digestId then return (c, ← learn list)
      else return (c, .ok false)
    | _ => return (c, .ok false)

end Controller

end SwitchAgent.Learning
