import SwitchAgent.Proofs.Address.Packing
import SwitchAgent.Proofs.Address.Spelling

/-!
# One address, three representations

An address is known by its domain and AS number, by its packed word, and by the text it is written
as. Each can be had from each other one, for the AS number never has more than its 48 bits.
-/

namespace SwitchAgent.IsdAs

open Text (Spells hexDigits spells_hexDigits)

theorem make_asn (isd : UInt16) (asn : UInt64) :
    (make isd asn).asn = asn &&& 0xffffffffffff := by
  apply UInt64.toNat_inj.mp
  rw [UInt64.toNat_and]
  exact (UInt64.toNat_mod asn 0x1000000000000).trans (Nat.and_two_pow_sub_one_eq_mod _ 48).symm

theorem asn_make_lt (isd : UInt16) (asn : UInt64) : (make isd asn).asn.toNat < 2 ^ 48 := by
  rw [make, UInt64.toNat_mod]
  exact Nat.mod_lt _ (by decide)

theorem pack_unpack (packed : UInt64) : (unpack packed).pack = packed := by
  have word := packed.toNat_lt
  have high : (packed >>> 48).toNat = packed.toNat / 2 ^ 48 := by
    rw [UInt64.toNat_shiftRight]
    exact Nat.shiftRight_eq_div_pow packed.toNat 48
  have isd : (unpack packed).isd.toNat = packed.toNat / 2 ^ 48 := by
    rw [unpack, make, UInt64.toNat_toUInt16, high]
    omega
  have asn : (unpack packed).asn.toNat = packed.toNat % 2 ^ 48 := UInt64.toNat_mod _ _
  have fits : (unpack packed).asn.toNat < 2 ^ 48 := asn_make_lt _ packed
  apply UInt64.toNat_inj.mp
  rw [toNat_pack fits, isd, asn]
  omega

theorem unpack_pack {a : IsdAs} (fits : a.asn.toNat < 2 ^ 48) : unpack a.pack = a :=
  pack_inj (asn_make_lt _ a.pack) fits (pack_unpack a.pack)

theorem toList_text (a : IsdAs) :
    a.text.toList =
      hexDigits a.isd.toNat ++ '-' :: [':'].intercalate ((groups a.asn).map hexDigits) := by
  simp [text, Text.hex, String.toList_intercalate, Function.comp_def]

/-- The text is one of the spellings, with three groups that have no zeros in front. -/
theorem spelledBy_text {a : IsdAs} (fits : a.asn.toNat < 2 ^ 48) : a.SpelledBy a.text := by
  have number : Nat.ofDigits (2 ^ 16) (groups a.asn).reverse = a.asn.toNat := by
    simp only [groups, List.reverse_cons, List.reverse_nil, List.nil_append, List.cons_append,
      Nat.ofDigits_cons, Nat.ofDigits_nil]
    omega
  have spelled : List.Forall₂ Spells ((groups a.asn).map hexDigits) (groups a.asn) := by
    refine List.forall₂_map_left_iff.mpr (List.forall₂_same.mpr fun n among => ?_)
    simp only [groups, List.mem_cons, List.not_mem_nil, or_false] at among
    apply spells_hexDigits
    omega
  refine ⟨_, _, groups a.asn, toList_text a, by simp [groups], spells_hexDigits a.isd.toNat_lt,
    spelled, ?_⟩
  rw [number, Nat.mod_eq_of_lt fits]

theorem parse_text {a : IsdAs} (fits : a.asn.toNat < 2 ^ 48) : parse a.text = .ok a :=
  parse_eq_ok_iff.mpr (spelledBy_text fits)

inductive Obtained : IsdAs → Prop
  | made (isd : UInt16) (asn : UInt64) : Obtained (make isd asn)
  | unpacked (packed : UInt64) : Obtained (unpack packed)
  | parsed {text : String} {a : IsdAs} (read : parse text = .ok a) : Obtained a

theorem Obtained.asn_lt {a : IsdAs} (obtained : Obtained a) : a.asn.toNat < 2 ^ 48 := by
  cases obtained with
  | made isd asn => exact asn_make_lt isd asn
  | unpacked packed => exact asn_make_lt _ packed
  | parsed read => exact asn_lt_of_parse read

/-- Packed and unpacked, written and read, an address comes back, and every packed word does. So
addresses are told apart by their texts and by their words alike, and what is read of any spelling
is written in one way only. -/
theorem representations_interchangeable :
    (∀ packed, (unpack packed).pack = packed) ∧
    (∀ isd asn, (make isd asn).isd = isd ∧ (make isd asn).asn = asn &&& 0xffffffffffff ∧
      (make isd asn).asn.toNat < 2 ^ 48 ∧ unpack (make isd asn).pack = make isd asn) ∧
    (∀ a, Obtained a → parse a.text = .ok a) ∧
    (∀ a b, Obtained a → Obtained b → (a = b ↔ a.text = b.text) ∧ (a = b ↔ a.pack = b.pack)) ∧
    (∀ s a, parse s = .ok a → ∃ b, parse a.text = .ok b ∧ b.text = a.text) := by
  refine ⟨pack_unpack, ?_, ?_, ?_, ?_⟩
  · intro isd asn
    have fits := asn_make_lt isd asn
    exact ⟨rfl, make_asn isd asn, fits, unpack_pack fits⟩
  · intro a obtained
    exact parse_text obtained.asn_lt
  · intro a b obtained obtained'
    constructor
    · constructor
      · exact congrArg text
      · intro same
        have first := parse_text obtained.asn_lt
        rw [same, parse_text obtained'.asn_lt] at first
        exact (Except.ok.inj first).symm
    · exact ⟨congrArg pack, pack_inj obtained.asn_lt obtained'.asn_lt⟩
  · intro s a read
    exact ⟨a, parse_text (asn_lt_of_parse read), rfl⟩

/-- It is spelled with a plus sign, zeros in front, capitals, and a group too many, and packed with
bits of that group. -/
theorem spelled_address_written_and_packed :
    parse "+0Fa-1:Ff00:0:100" = .ok ⟨0xfa, 0xff0000000100⟩ ∧
    parse "fa-ff00:0:100" = .ok ⟨0xfa, 0xff0000000100⟩ ∧
    (∃ b, parse "fa-ff00:0:100" = .ok b ∧ b.text = "fa-ff00:0:100") ∧
    (make 0xfa 0x1ff0000000100).pack = 0x00faff0000000100 ∧
    unpack 0x00faff0000000100 = make 0xfa 0x1ff0000000100 := by
  obtain ⟨packs, makes, written, told, fixed⟩ := representations_interchangeable
  have read : parse "+0Fa-1:Ff00:0:100" = .ok ⟨0xfa, 0xff0000000100⟩ := by decide
  have shown : (IsdAs.mk 0xfa 0xff0000000100).text = "fa-ff00:0:100" := by decide
  have again := written _ (.parsed read)
  have settled := fixed _ _ read
  rw [shown] at again settled
  have packed := (told _ _ (.parsed read) (.made 0xfa 0x1ff0000000100)).2.mp (by decide)
  exact ⟨read, again, settled, packed.symm.trans (by decide), (makes 0xfa 0x1ff0000000100).2.2.2⟩

end SwitchAgent.IsdAs
