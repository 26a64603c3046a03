import SwitchAgent.Fault
import SwitchAgent.Text.Blank

/-!
# Autonomous systems

An AS number has 48 bits, written as three groups of 16 bits in hexadecimal, and belongs to
an isolation domain. Packed into 64 bits the domain stands above the AS number.
-/

namespace SwitchAgent

structure IsdAs where
  isd : UInt16
  asn : UInt64
  deriving DecidableEq, Repr

namespace IsdAs

/-- Only the low 48 bits of the AS number are kept. -/
def make (isd : UInt16) (asn : UInt64) : IsdAs :=
  ⟨isd, asn % 0x1000000000000⟩

def pack (a : IsdAs) : UInt64 :=
  (a.isd.toUInt64 <<< 48) ||| a.asn

def unpack (packed : UInt64) : IsdAs :=
  make (packed >>> 48).toUInt16 packed

/-- The three groups of an AS number, the most significant first. -/
def groups (asn : UInt64) : List Nat :=
  [asn.toNat / 0x100000000 % 0x10000, asn.toNat / 0x10000 % 0x10000, asn.toNat % 0x10000]

def text (a : IsdAs) : String :=
  Text.hex a.isd.toNat ++ "-" ++ ":".intercalate ((groups a.asn).map Text.hex)

/-- Groups are joined from the left; of more than four the first are lost. -/
def joinGroups : UInt64 → List (List Char) → Except Text.NumeralError UInt64
  | asn, [] => .ok asn
  | asn, g :: gs => do
    let n ← Text.readNumeral 16 0x10000 g
    joinGroups (asn * 0x10000 + UInt64.ofNat n) gs

def parse (s : String) : Except Fault IsdAs :=
  match Text.cutOnce '-' s.toList with
  | none => .error (.invalidIsdAs s)
  | some (isd, asn) =>
    match Text.readNumeral 16 0x10000 isd with
    | .error cause => .error (.invalidIsd s cause)
    | .ok isd =>
      match joinGroups 0 (Text.pieces (· == ':') asn) with
      | .error cause => .error (.invalidAs s cause)
      | .ok asn => .ok (make (UInt16.ofNat isd) asn)

end IsdAs

end SwitchAgent
