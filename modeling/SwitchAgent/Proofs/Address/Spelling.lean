import Mathlib.Data.Nat.ModEq
import SwitchAgent.Address.IsdAs
import SwitchAgent.Proofs.Text.Numerals
import SwitchAgent.Proofs.Text.Pieces

/-!
# How an AS may be spelled

One AS has many spellings: digits in either case, zeros and a plus sign in front of every number,
fewer groups where the first are zero, and more groups than the AS number has room for. An address
is read from its spellings and from no other text.
-/

namespace SwitchAgent.IsdAs

open Text

/-- The domain, a dash, and groups between colons that are digits of the AS number to the base of
two bytes. Of the number only the low 48 bits are meant. -/
def SpelledBy (text : String) (a : IsdAs) : Prop :=
  ∃ isd groups values, text.toList = isd ++ '-' :: [':'].intercalate groups ∧ groups ≠ [] ∧
    Spells isd a.isd.toNat ∧ List.Forall₂ Spells groups values ∧
    a.asn.toNat = Nat.ofDigits (2 ^ 16) values.reverse % 2 ^ 48

theorem toNat_joined (asn : UInt64) (n : Nat) :
    (asn * 0x10000 + UInt64.ofNat n).toNat ≡ asn.toNat * 2 ^ 16 + n [MOD 2 ^ 64] := by
  simp [Nat.ModEq, UInt64.toNat_add, UInt64.toNat_mul]

/-- The groups are the digits of a number of which 64 bits are kept. -/
theorem joinGroups_eq_ok_iff {asn result : UInt64} {groups : List (List Char)} :
    joinGroups asn groups = .ok result ↔ ∃ values, List.Forall₂ Spells groups values ∧
      result.toNat = (asn.toNat * (2 ^ 16) ^ values.length +
        Nat.ofDigits (2 ^ 16) values.reverse) % 2 ^ 64 := by
  induction groups generalizing asn with
  | nil =>
    have small := Nat.mod_eq_of_lt asn.toNat_lt
    simp [joinGroups, ← UInt64.toNat_inj, small, eq_comm]
  | cons group groups ih =>
    have step (n : Nat) (values : List Nat) :
        ((asn * 0x10000 + UInt64.ofNat n).toNat * (2 ^ 16) ^ values.length +
            Nat.ofDigits (2 ^ 16) values.reverse) % 2 ^ 64 =
          (asn.toNat * (2 ^ 16) ^ (n :: values).length +
            Nat.ofDigits (2 ^ 16) (n :: values).reverse) % 2 ^ 64 := by
      rw [← horner]
      exact ((toNat_joined asn n).mul_right _).add_right _
    rw [joinGroups]
    constructor
    · intro joined
      cases read : readNumeral 16 0x10000 group with
      | error cause =>
        rw [read] at joined
        cases joined
      | ok n =>
        rw [read] at joined
        obtain ⟨values, others, value⟩ := ih.mp joined
        have first := readNumeral_eq_ok_iff.mp read
        exact ⟨n :: values, .cons first others, value.trans (step n values)⟩
    · rintro ⟨_, spelled, value⟩
      cases spelled with
      | cons first others =>
        rw [readNumeral_eq_ok_iff.mpr first]
        exact ih.mpr ⟨_, others, value.trans (step _ _).symm⟩

/-- A text is cut at the first dash and what follows is cut at every colon. -/
theorem parse_stages {text : String} {a : IsdAs} :
    parse text = .ok a ↔ ∃ isd asn n sum, cutOnce '-' text.toList = some (isd, asn) ∧
      readNumeral 16 0x10000 isd = .ok n ∧ joinGroups 0 (pieces (· == ':') asn) = .ok sum ∧
      a = make (UInt16.ofNat n) sum := by
  constructor
  · intro parsed
    unfold parse at parsed
    split at parsed
    · cases parsed
    · rename_i isd asn cut
      split at parsed
      · cases parsed
      · rename_i n domain
        split at parsed
        · cases parsed
        · rename_i sum joined
          cases parsed
          exact ⟨isd, asn, n, sum, cut, domain, joined, rfl⟩
  · rintro ⟨isd, asn, n, sum, cut, domain, joined, rfl⟩
    simp only [parse, cut, domain, joined]

theorem eq_make_iff {a : IsdAs} {n : Nat} {sum : UInt64} (small : n < 2 ^ 16) :
    a = make (UInt16.ofNat n) sum ↔ a.isd.toNat = n ∧ a.asn.toNat = sum.toNat % 2 ^ 48 := by
  cases a with
  | mk isd asn =>
    simp only [make, mk.injEq, ← UInt16.toNat_inj, ← UInt64.toNat_inj]
    rw [UInt16.toNat_ofNat_of_lt' small, UInt64.toNat_mod]
    rfl

theorem parse_eq_ok_iff {text : String} {a : IsdAs} : parse text = .ok a ↔ a.SpelledBy text := by
  have kept (n : Nat) : n % 2 ^ 64 % 2 ^ 48 = n % 2 ^ 48 := Nat.mod_mod_of_dvd n (by decide)
  rw [parse_stages]
  constructor
  · rintro ⟨isd, asn, n, sum, cut, domain, joined, value⟩
    obtain ⟨written, -⟩ := cutOnce_eq_some_iff.mp cut
    obtain ⟨values, spelled, total⟩ := joinGroups_eq_ok_iff.mp joined
    have numeral := readNumeral_eq_ok_iff.mp domain
    obtain ⟨rfl, number⟩ := (eq_make_iff numeral.lt).mp value
    rw [total, kept, UInt64.toNat_zero, zero_mul, zero_add] at number
    refine ⟨isd, pieces (· == ':') asn, values, ?_, pieces_ne_nil _ asn, numeral, spelled, number⟩
    rw [written, intercalate_pieces]
  · rintro ⟨isd, groups, values, written, some, domain, spelled, number⟩
    have whole : ∀ group ∈ groups, ':' ∉ group :=
      forall_mem_of_forall₂ spelled fun _ _ numeral => numeral.not_mem (by simp)
    have cut := cutOnce_eq_some_iff.mpr ⟨written, domain.not_mem (by simp)⟩
    have numeral := readNumeral_eq_ok_iff.mpr domain
    refine ⟨isd, [':'].intercalate groups, a.isd.toNat,
      UInt64.ofNat (Nat.ofDigits (2 ^ 16) values.reverse), cut, numeral, ?_, ?_⟩
    · rw [pieces_intercalate some whole, joinGroups_eq_ok_iff]
      refine ⟨values, spelled, ?_⟩
      rw [UInt64.toNat_zero, zero_mul, zero_add, UInt64.toNat_ofNat']
    · refine (eq_make_iff domain.lt).mpr ⟨rfl, ?_⟩
      rw [number, UInt64.toNat_ofNat', kept]

theorem kind_of_parse {text : String} {fault : Fault} (failed : parse text = .error fault) :
    fault.kind = .config := by
  unfold parse at failed
  split at failed
  · cases failed
    rfl
  · split at failed
    · cases failed
      rfl
    · split at failed
      · cases failed
        rfl
      · cases failed

theorem asn_lt_of_parse {text : String} {a : IsdAs} (parsed : parse text = .ok a) :
    a.asn.toNat < 2 ^ 48 := by
  obtain ⟨_, _, _, -, -, -, -, number⟩ := parse_eq_ok_iff.mp parsed
  rw [number]
  exact Nat.mod_lt _ (by decide)

theorem SpelledBy.solid {text : String} {a : IsdAs} (spelled : a.SpelledBy text) :
    Solid text.toList := by
  obtain ⟨isd, groups, values, written, -, domain, each, -⟩ := spelled
  have parts : ∀ group ∈ groups, Solid group :=
    forall_mem_of_forall₂ each fun _ _ => Spells.solid
  rw [written]
  refine List.forall_mem_append.mpr ⟨domain.solid, List.forall_mem_cons.mpr ⟨by decide, ?_⟩⟩
  intro c among
  obtain rfl | ⟨group, listed, inside⟩ := eq_or_mem_of_mem_intercalate among
  · decide
  · exact parts group listed c inside

/-- Three numbers of two bytes, the last ones of a list. Missing ones are zero. -/
def lastThree (values : List Nat) : Nat :=
  values.reverse.getD 2 0 * 2 ^ 32 + values.reverse.getD 1 0 * 2 ^ 16 + values.reverse.getD 0 0

theorem ofDigits_mod_eq_lastThree {values : List Nat} (small : ∀ n ∈ values, n < 2 ^ 16) :
    Nat.ofDigits (2 ^ 16) values.reverse % 2 ^ 48 = lastThree values := by
  have below : ∀ n ∈ values.reverse, n < 2 ^ 16 := fun n among =>
    small n (List.mem_reverse.mp among)
  rw [lastThree]
  match values.reverse, below with
  | [], _ => rfl
  | [low], below =>
    have lowSmall := below low (by simp)
    simp only [Nat.ofDigits_singleton, List.getD_cons_zero, List.getD_cons_succ, List.getD_nil]
    omega
  | [low, middle], below =>
    have lowSmall := below low (by simp)
    have middleSmall := below middle (by simp)
    simp only [Nat.ofDigits_cons, Nat.ofDigits_nil, List.getD_cons_zero, List.getD_cons_succ,
      List.getD_nil]
    omega
  | low :: middle :: high :: front, below =>
    have lowSmall := below low (by simp)
    have middleSmall := below middle (by simp)
    have highSmall := below high (by simp)
    simp only [Nat.ofDigits_cons, List.getD_cons_zero, List.getD_cons_succ]
    omega

/-- A text is an address in groups: its AS number is what the last three of them say. -/
def InGroups (text : String) (a : IsdAs) : Prop :=
  ∃ isd groups values, text.toList = isd ++ '-' :: [':'].intercalate groups ∧ groups ≠ [] ∧
    Spells isd a.isd.toNat ∧ List.Forall₂ Spells groups values ∧ a.asn.toNat = lastThree values

theorem spelledBy_iff_inGroups {text : String} {a : IsdAs} : a.SpelledBy text ↔ a.InGroups text := by
  have same {groups : List (List Char)} {values : List Nat}
      (spelled : List.Forall₂ Spells groups values) :
      Nat.ofDigits (2 ^ 16) values.reverse % 2 ^ 48 = lastThree values :=
    ofDigits_mod_eq_lastThree (forall_mem_of_forall₂ spelled.flip fun _ _ => Spells.lt)
  constructor
  · rintro ⟨isd, groups, values, written, some, domain, spelled, number⟩
    exact ⟨isd, groups, values, written, some, domain, spelled, number.trans (same spelled)⟩
  · rintro ⟨isd, groups, values, written, some, domain, spelled, number⟩
    exact ⟨isd, groups, values, written, some, domain, spelled, number.trans (same spelled).symm⟩

end SwitchAgent.IsdAs
