import SwitchAgent.Bytes.Bitstring
import SwitchAgent.Device.Entity

/-!
# What address learning installs

A known source address is in the learn table and makes no more digests; the forward table sends
packets for it out of its port. Packets for unknown addresses are flooded.
-/

namespace SwitchAgent.Learning

open Bytes Device

def noAction : UInt32 := 0x01000001

def forwardAction : UInt32 := 0x01000003

def learnTable : UInt32 := 0x02000001

def forwardTable : UInt32 := 0x02000002

def broadcast : Nat := 0xffffffffffff

def learnEntry (mac : Nat) (action : UInt32) : TableEntry :=
  (TableEntry.mk learnTable [] none).exact 1 (Bitstring.encode 6 mac) |>.calling ⟨action, []⟩

def forwardEntry (mac port : Nat) : TableEntry :=
  (TableEntry.mk forwardTable [] none).exact 1 (Bitstring.encode 6 mac)
    |>.calling ((ActionCall.mk forwardAction []).param 1 (Bitstring.encode 2 port))

/-- Number replicas from zero. -/
def replicas (ports : List Nat) : List Replica :=
  ports.mapIdx fun i port => ⟨UInt32.ofNat port, UInt32.ofNat i⟩

/-- All ports but the one a packet came in by. Group 0 is invalid. -/
def floodGroup (ingress ports : Nat) : MulticastGroup :=
  ⟨UInt32.ofNat (ingress + 1), replicas ((List.range ports).filter (· != ingress))⟩

/-- Digests are sent at once and have to be acknowledged within a millisecond. -/
def immediateDigest (digestId : UInt32) : DigestEntry :=
  ⟨digestId, ⟨0, 1, 1000000⟩⟩

end SwitchAgent.Learning
