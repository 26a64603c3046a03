import SwitchAgent.Proofs.Address.Spelling
import SwitchAgent.Proofs.Faults
import SwitchAgent.Proofs.Text.Blanks
import SwitchAgent.Telemetry.RuleTable

/-!
# How a rule may be written

A line names the remote AS and two bitmasks in any of their spellings, and what stands behind them
says nothing. No other line is a rule, and whatever is wrong with one is a fault of configuration.
-/

namespace SwitchAgent.Telemetry

open Text

/-- A bitmask may be marked as hexadecimal, in either case. -/
def BitmaskSpelledBy (field : List Char) (bitmask : UInt16) : Prop :=
  ∃ numeral, (field = numeral ∨ field = '0' :: 'x' :: numeral ∨ field = '0' :: 'X' :: numeral) ∧
    Spells numeral bitmask.toNat

def Rule.WrittenOn (line : String) (rule : Rule) : Prop :=
  ∃ remote int scion remark, fields line.toList = remote :: int :: scion :: remark ∧
    rule.remote.SpelledBy (String.ofList remote) ∧ BitmaskSpelledBy int rule.intBitmask ∧
    BitmaskSpelledBy scion rule.scionBitmask

theorem bitmaskDigits_of_spells {numeral : List Char} {n : Nat} (spelled : Spells numeral n) :
    bitmaskDigits numeral = numeral := by
  unfold bitmaskDigits
  split
  · exact absurd (by simp) (spelled.not_mem (c := 'x') (by simp))
  · exact absurd (by simp) (spelled.not_mem (c := 'X') (by simp))
  · rfl

theorem bitmaskDigits_cases (field : List Char) :
    field = bitmaskDigits field ∨ field = '0' :: 'x' :: bitmaskDigits field ∨
      field = '0' :: 'X' :: bitmaskDigits field := by
  unfold bitmaskDigits
  split
  · exact .inr (.inl rfl)
  · exact .inr (.inr rfl)
  · exact .inl rfl

theorem readBitmask_eq_ok_iff {line : String} {field : List Char} {bitmask : UInt16} :
    readBitmask line field = .ok bitmask ↔ BitmaskSpelledBy field bitmask := by
  constructor
  · intro read
    unfold readBitmask at read
    split at read
    · rename_i n numeral
      cases read
      have spelled := readNumeral_eq_ok_iff.mp numeral
      refine ⟨bitmaskDigits field, bitmaskDigits_cases field, ?_⟩
      rwa [UInt16.toNat_ofNat_of_lt' spelled.lt]
    · cases read
  · rintro ⟨numeral, written, spelled⟩
    have digits : bitmaskDigits field = numeral := by
      rcases written with rfl | rfl | rfl
      · exact bitmaskDigits_of_spells spelled
      · rfl
      · rfl
    simp only [readBitmask, digits, readNumeral_eq_ok_iff.mpr spelled, UInt16.ofNat_toNat]

theorem Rule.parse_eq_ok_iff {line : String} {rule : Rule} :
    parse line = .ok rule ↔ rule.WrittenOn line := by
  constructor
  · intro parsed
    unfold parse at parsed
    split at parsed
    · rename_i remote int scion remark cut
      obtain ⟨address, first, parsed⟩ := exists_of_bind_ok parsed
      obtain ⟨intBitmask, second, parsed⟩ := exists_of_bind_ok parsed
      obtain ⟨scionBitmask, third, parsed⟩ := exists_of_bind_ok parsed
      cases parsed
      exact ⟨remote, int, scion, remark, cut, IsdAs.parse_eq_ok_iff.mp first,
        readBitmask_eq_ok_iff.mp second, readBitmask_eq_ok_iff.mp third⟩
    · cases parsed
  · rintro ⟨remote, int, scion, remark, cut, first, second, third⟩
    have address := IsdAs.parse_eq_ok_iff.mpr first
    have intBitmask : readBitmask line int = .ok rule.intBitmask :=
      readBitmask_eq_ok_iff.mpr second
    have scionBitmask : readBitmask line scion = .ok rule.scionBitmask :=
      readBitmask_eq_ok_iff.mpr third
    simp only [parse, cut, address, intBitmask, scionBitmask]
    rfl

theorem kind_of_readBitmask {line : String} {field : List Char} {fault : Fault}
    (failed : readBitmask line field = .error fault) : fault.kind = .config := by
  unfold readBitmask at failed
  split at failed
  · cases failed
  · cases failed
    rfl

theorem Rule.kind_of_parse {line : String} {fault : Fault} (failed : parse line = .error fault) :
    fault.kind = .config := by
  unfold parse at failed
  split at failed
  · obtain first | ⟨_, -, failed⟩ := error_of_bind_error failed
    · exact IsdAs.kind_of_parse first
    · obtain second | ⟨_, -, failed⟩ := error_of_bind_error failed
      · exact kind_of_readBitmask second
      · obtain third | ⟨_, -, failed⟩ := error_of_bind_error failed
        · exact kind_of_readBitmask third
        · cases failed
  · cases failed
    rfl

/-- The first three words of a line say a rule, whatever words follow. -/
def Rule.SaidBy (line : String) (rule : Rule) : Prop :=
  ∃ remote int scion remark, MadeOf (remote :: int :: scion :: remark) line.toList ∧
    rule.remote.InGroups (String.ofList remote) ∧ BitmaskSpelledBy int rule.intBitmask ∧
    BitmaskSpelledBy scion rule.scionBitmask

theorem Rule.parse_eq_ok_iff_saidBy {line : String} {rule : Rule} :
    parse line = .ok rule ↔ rule.SaidBy line := by
  simp only [parse_eq_ok_iff, WrittenOn, SaidBy, fields_eq_iff, IsdAs.spelledBy_iff_inGroups]

/-- An address and a rule are read from the texts of their grammars, as what these mean, and from no
others. Of every other text the configuration is to blame. -/
theorem addresses_and_rules_read_by_grammar :
    (∀ text a, IsdAs.parse text = .ok a ↔ a.InGroups text) ∧
    (∀ text, (¬ ∃ a : IsdAs, a.InGroups text) →
      ∃ fault, IsdAs.parse text = .error fault ∧ fault.kind = .config) ∧
    (∀ line rule, Rule.parse line = .ok rule ↔ rule.SaidBy line) ∧
    (∀ line, (¬ ∃ rule : Rule, rule.SaidBy line) →
      ∃ fault, Rule.parse line = .error fault ∧ fault.kind = .config) := by
  have addresses (text : String) (a : IsdAs) : IsdAs.parse text = .ok a ↔ a.InGroups text := by
    rw [IsdAs.parse_eq_ok_iff, IsdAs.spelledBy_iff_inGroups]
  refine ⟨addresses, ?_, fun _ _ => Rule.parse_eq_ok_iff_saidBy, ?_⟩
  · intro text other
    cases read : IsdAs.parse text with
    | ok a => exact absurd ⟨a, (addresses text a).mp read⟩ other
    | error fault => exact ⟨fault, rfl, IsdAs.kind_of_parse read⟩
  · intro line other
    cases read : Rule.parse line with
    | ok rule => exact absurd ⟨rule, Rule.parse_eq_ok_iff_saidBy.mp read⟩ other
    | error fault => exact ⟨fault, rfl, Rule.kind_of_parse read⟩

/-- Signs, zeros, capitals, marks, odd blanks and a fourth word are no obstacles; an empty group and
a second sign are. -/
theorem odd_rule_read_empty_group_refused :
    IsdAs.InGroups "1-2:+00fF00:0:110" ⟨1, 0xff0000000110⟩ ∧
    (¬ ∃ a : IsdAs, a.InGroups "1-2::110") ∧
    (∃ fault, IsdAs.parse "1-2::110" = .error fault ∧ fault.kind = .config) ∧
    Rule.SaidBy "\t1-ff00:0:110\u00a00X+8D00  0001 twice" ⟨⟨1, 0xff0000000110⟩, 0x8d00, 1⟩ ∧
    (¬ ∃ rule : Rule, rule.SaidBy "1-ff00:0:110 0x8d00 ++1") ∧
    (∃ fault, Rule.parse "1-ff00:0:110 0x8d00 ++1" = .error fault ∧ fault.kind = .config) := by
  obtain ⟨addresses, noAddress, rules, noRule⟩ := addresses_and_rules_read_by_grammar
  have emptyGroup : ¬ ∃ a : IsdAs, a.InGroups "1-2::110" := by
    rintro ⟨a, grouped⟩
    have failed : IsdAs.parse "1-2::110" = .error (.invalidAs "1-2::110" .empty) := by decide
    have read := (addresses _ a).mpr grouped
    rw [failed] at read
    cases read
  have twoSigns : ¬ ∃ rule : Rule, rule.SaidBy "1-ff00:0:110 0x8d00 ++1" := by
    rintro ⟨rule, said⟩
    have failed : Rule.parse "1-ff00:0:110 0x8d00 ++1" =
        .error (.invalidBitmask "++1" "1-ff00:0:110 0x8d00 ++1" .invalidDigit) := by decide
    have read := (rules _ rule).mpr said
    rw [failed] at read
    cases read
  exact ⟨(addresses _ _).mp (by decide), emptyGroup, noAddress _ emptyGroup,
    (rules _ _).mp (by decide), twoSigns, noRule _ twoSigns⟩

end SwitchAgent.Telemetry
