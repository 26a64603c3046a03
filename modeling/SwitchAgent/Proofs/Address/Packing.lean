import Mathlib.Algebra.Group.Nat.Defs
import SwitchAgent.Address.IsdAs

/-!
# Packed addresses

In 64 bits the domain stands above the 48 bits of the AS number, so that no two addresses are packed
alike.
-/

namespace SwitchAgent.IsdAs

theorem toNat_domain (isd : UInt16) : (isd.toUInt64 <<< 48).toNat = isd.toNat <<< 48 := by
  have domain := isd.toNat_lt
  have stays : isd.toNat <<< 48 < 2 ^ 64 := by
    rw [Nat.shiftLeft_eq]
    omega
  rw [UInt64.toNat_shiftLeft, UInt16.toNat_toUInt64]
  exact Nat.mod_eq_of_lt stays

theorem toNat_pack {a : IsdAs} (fits : a.asn.toNat < 2 ^ 48) :
    a.pack.toNat = a.isd.toNat * 2 ^ 48 + a.asn.toNat := by
  rw [pack, UInt64.toNat_or, toNat_domain, ← Nat.shiftLeft_add_eq_or_of_lt fits, Nat.shiftLeft_eq]

theorem pack_inj {a b : IsdAs} (aFits : a.asn.toNat < 2 ^ 48) (bFits : b.asn.toNat < 2 ^ 48)
    (same : a.pack = b.pack) : a = b := by
  have number := congrArg UInt64.toNat same
  rw [toNat_pack aFits, toNat_pack bFits] at number
  have isd : a.isd = b.isd := by
    rw [← UInt16.toNat_inj]
    omega
  have asn : a.asn = b.asn := by
    rw [← UInt64.toNat_inj]
    omega
  exact congrArg₂ IsdAs.mk isd asn

end SwitchAgent.IsdAs
