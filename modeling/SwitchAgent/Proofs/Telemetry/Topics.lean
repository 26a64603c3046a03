import SwitchAgent.Proofs.Address.Representations
import SwitchAgent.Telemetry.Packet

/-!
# Topics

A topic names the AS that a packet goes to and the node that reports it, and nothing else. Of two
topics it can be told whether they name the same. The AS is written as it is in an address, but for
what stands between its groups.
-/

namespace SwitchAgent.Telemetry.Packet

open Text (hexDigits)

/-- A topic spelled out: three groups of the AS, and the node. -/
theorem toList_topic (p : Packet) (nodeId : UInt32) :
    (p.topic nodeId).toList = 'A' :: 'S' ::
      (hexDigits (p.destination.toNat / 0x100000000 % 0x10000) ++ '_' ::
        (hexDigits (p.destination.toNat / 0x10000 % 0x10000) ++ '_' ::
          (hexDigits (p.destination.toNat % 0x10000) ++ '-' :: hexDigits nodeId.toNat))) := by
  simp [topic, IsdAs.groups, Text.hex]

/-- The 48 bits of the AS number decide the topic, along with the node. -/
theorem topic_eq_topic_iff {p q : Packet} {m n : UInt32} :
    p.topic m = q.topic n ↔
      p.destination.toNat % 2 ^ 48 = q.destination.toNat % 2 ^ 48 ∧ m = n := by
  rw [← String.toList_inj, toList_topic, toList_topic]
  constructor
  · intro same
    -- No digit is a separator, so the numerals are cut apart from the front.
    obtain ⟨-, same⟩ := List.cons.inj same
    obtain ⟨-, same⟩ := List.cons.inj same
    obtain ⟨high, same⟩ := Text.hexDigits_append_cons_inj (Or.inl rfl) same
    obtain ⟨middle, same⟩ := Text.hexDigits_append_cons_inj (Or.inl rfl) same
    obtain ⟨low, same⟩ := Text.hexDigits_append_cons_inj (Or.inr (Or.inl rfl)) same
    constructor
    · omega
    · exact UInt32.toNat_inj.mp (Text.hexDigits_inj same)
  · rintro ⟨same, rfl⟩
    have high : p.destination.toNat / 0x100000000 % 0x10000 =
        q.destination.toNat / 0x100000000 % 0x10000 := by omega
    have middle : p.destination.toNat / 0x10000 % 0x10000 =
        q.destination.toNat / 0x10000 % 0x10000 := by omega
    have low : p.destination.toNat % 0x10000 = q.destination.toNat % 0x10000 := by omega
    rw [high, middle, low]

/-- A colon may not stand in a topic. -/
def underscored (c : Char) : Char :=
  if c = ':' then '_' else c

theorem map_underscored_hexDigits (n : Nat) :
    (hexDigits n).map underscored = hexDigits n := by
  have same : ∀ c ∈ hexDigits n, underscored c = c := by
    intro c among
    refine if_neg ?_
    rintro rfl
    exact Text.separator_not_mem_hexDigits (Or.inr (Or.inr rfl)) n among
  exact (List.map_congr_left same).trans (List.map_id' _)

theorem groups_unpack (packed : UInt64) :
    IsdAs.groups (IsdAs.unpack packed).asn = IsdAs.groups packed := by
  have number : (IsdAs.unpack packed).asn.toNat = packed.toNat % 2 ^ 48 := UInt64.toNat_mod _ _
  simp only [IsdAs.groups, number, List.cons.injEq, and_true]
  omega

/-- An address is cut at its dash, and the part behind it is what the topic says of the AS. -/
theorem exists_address_cut (p : Packet) (nodeId : UInt32) :
    ∃ domain asn, Text.cutOnce '-' (IsdAs.unpack p.destination).text.toList = some (domain, asn) ∧
      (p.topic nodeId).toList =
        'A' :: 'S' :: (asn.map underscored ++ '-' :: Nat.toDigits 16 nodeId.toNat) := by
  have written := IsdAs.toList_text (IsdAs.unpack p.destination)
  rw [groups_unpack] at written
  have whole : '-' ∉ hexDigits (IsdAs.unpack p.destination).isd.toNat :=
    Text.separator_not_mem_hexDigits (Or.inr (Or.inl rfl)) _
  refine ⟨_, _, Text.cutOnce_eq_some_iff.mpr ⟨written, whole⟩, ?_⟩
  have colon : underscored ':' = '_' := rfl
  rw [toList_topic]
  change _ = 'A' :: 'S' :: (_ ++ '-' :: hexDigits nodeId.toNat)
  simp [IsdAs.groups, List.intercalate, map_underscored_hexDigits, colon]

/-- Two topics are the same if and only if they name the same 48 bits of an AS number and the same
node. What a topic says of the AS is what follows the dash in the text of the address, with an
underscore for every colon, and the node follows in hexadecimal. -/
theorem topics_name_as_of_address_and_node :
    (∀ (p q : Packet) (m n : UInt32), p.topic m = q.topic n ↔
      p.destination.toNat % 2 ^ 48 = q.destination.toNat % 2 ^ 48 ∧ m = n) ∧
    ∀ (p : Packet) (m : UInt32), ∃ domain asn,
      Text.cutOnce '-' (IsdAs.unpack p.destination).text.toList = some (domain, asn) ∧
      (p.topic m).toList = 'A' :: 'S' :: (asn.map underscored ++ '-' :: Nat.toDigits 16 m.toNat) :=
  ⟨fun _ _ _ _ => topic_eq_topic_iff, exists_address_cut⟩

end SwitchAgent.Telemetry.Packet
