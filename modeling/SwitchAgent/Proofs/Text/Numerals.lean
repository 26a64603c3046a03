import Mathlib.Data.List.Forall2
import Mathlib.Data.Nat.Digits.Defs
import SwitchAgent.Proofs.Text.Blanks
import SwitchAgent.Proofs.Text.Hexadecimal

/-!
# Numerals as they are read

A numeral may have any number of zeros in front and one plus sign before them, and hexadecimal digits
in either case. Reading knows these numerals and no others. An integer may be below zero too.
-/

namespace SwitchAgent.Text

/-- A character stands for a hexadecimal digit. -/
def StandsFor (c : Char) (d : Nat) : Prop :=
  d < 16 ∧ (c = Nat.digitChar d ∨ c = (Nat.digitChar d).toUpper)

/-- A numeral of a number in two bytes: digits, the first the most significant, after at most one
plus sign. -/
def Spells (numeral : List Char) (n : Nat) : Prop :=
  ∃ digits values, (numeral = digits ∨ numeral = '+' :: digits) ∧ digits ≠ [] ∧
    List.Forall₂ StandsFor digits values ∧ n = Nat.ofDigits 16 values.reverse ∧ n < 2 ^ 16

theorem forall_mem_of_forall₂ {α β : Type} {R : α → β → Prop} {p : α → Prop} {as : List α}
    {bs : List β} (related : List.Forall₂ R as bs) (each : ∀ a b, R a b → p a) : ∀ a ∈ as, p a := by
  have both := related.imp fun a b r => And.intro (each a b r) r
  exact ((List.forall₂_and_left as bs).mp both).1

theorem digitValue_eq_some_iff {c : Char} {d : Nat} :
    digitValue 16 c = some d ↔ StandsFor c d := by
  constructor
  · intro known
    have small : c.toNat < 128 := by
      by_contra large
      have beyond : ∀ e : Char, e.toNat < 128 → ¬ c ≤ e := by
        intro e eSmall le
        have below := UInt32.le_iff_toNat_le.mp (Char.le_def.mp le)
        exact large (lt_of_le_of_lt below eSmall)
      have none := beyond '9' (by decide)
      have lower := beyond 'z' (by decide)
      have upper := beyond 'Z' (by decide)
      simp [digitValue, none, lower, upper] at known
    have all : ∀ n < 128, ∀ e ∈ digitValue 16 (Char.ofNat n), StandsFor (Char.ofNat n) e := by
      unfold StandsFor
      decide
    have here := all c.toNat small
    rw [Char.ofNat_toNat] at here
    exact here d known
  · rintro ⟨small, rfl | rfl⟩
    · revert d
      decide
    · revert d
      decide

theorem StandsFor.not_mem {c : Char} {d : Nat} (stands : StandsFor c d) :
    c ∉ ['+', '-', ':', 'x', 'X', '#'] := by
  intro among
  have all : ['+', '-', ':', 'x', 'X', '#'].all (fun c => digitValue 16 c = none) = true := by decide
  have none := of_decide_eq_true (List.all_eq_true.mp all c among)
  rw [digitValue_eq_some_iff.mpr stands] at none
  cases none

theorem StandsFor.not_blank {c : Char} {d : Nat} (stands : StandsFor c d) : ¬ isBlank c := by
  obtain ⟨small, rfl | rfl⟩ := stands
  · revert d
    decide
  · revert d
    decide

theorem standsFor_of_digitValue {radix d : Nat} {c : Char} (small : radix ≤ 16)
    (known : digitValue radix c = some d) : StandsFor c d := by
  obtain ⟨value, below⟩ := Option.filter_eq_some_iff.mp known
  rw [← digitValue_eq_some_iff]
  refine Option.filter_eq_some_iff.mpr ⟨value, ?_⟩
  simp only [decide_eq_true_eq] at below ⊢
  omega

theorem decimal_of_digitValue {c : Char} {d : Nat} (known : digitValue 10 c = some d) :
    d < 10 ∧ c = Nat.digitChar d := by
  obtain ⟨-, below⟩ := Option.filter_eq_some_iff.mp known
  have low : d < 10 := of_decide_eq_true below
  have same : ∀ d < 10, (Nat.digitChar d).toUpper = Nat.digitChar d := by decide
  obtain ⟨-, rfl | rfl⟩ := standsFor_of_digitValue (by decide) known
  · exact ⟨low, rfl⟩
  · exact ⟨low, same d low⟩

theorem isDigit_of_digitValue {c : Char} {d : Nat} (known : digitValue 10 c = some d) :
    c.isDigit := by
  have all : ∀ d < 10, (Nat.digitChar d).isDigit := by decide
  obtain ⟨low, rfl⟩ := decimal_of_digitValue known
  exact all d low

/-- From the left, a digit more multiplies what stands before it by the radix. -/
theorem horner {radix : Nat} (value d : Nat) (ds : List Nat) :
    (value * radix + d) * radix ^ ds.length + Nat.ofDigits radix ds.reverse =
      value * radix ^ (d :: ds).length + Nat.ofDigits radix (d :: ds).reverse := by
  rw [List.reverse_cons, Nat.ofDigits_append, Nat.ofDigits_singleton, List.length_reverse,
    List.length_cons]
  ring

/-- Characters that are digits one by one, and their values. -/
def Digits (radix : Nat) (cs : List Char) (ds : List Nat) : Prop :=
  List.Forall₂ (fun c d => digitValue radix c = some d) cs ds

theorem digits_iff_standsFor {cs : List Char} {ds : List Nat} :
    Digits 16 cs ds ↔ List.Forall₂ StandsFor cs ds := by
  simp only [Digits, digitValue_eq_some_iff]

/-- A digit is taken as long as the number stays below the bound. -/
theorem readDigits_cons_eq_ok_iff {radix limit value n : Nat} {c : Char} {cs : List Char} :
    readDigits radix limit value (c :: cs) = .ok n ↔
      ∃ d, digitValue radix c = some d ∧ value * radix + d < limit ∧
        readDigits radix limit (value * radix + d) cs = .ok n := by
  constructor
  · intro read
    cases known : digitValue radix c with
    | none => simp [readDigits, known] at read
    | some d =>
      simp only [readDigits, known] at read
      split at read
      · rename_i below
        exact ⟨d, rfl, below, read⟩
      · cases read
  · rintro ⟨d, known, below, read⟩
    simp only [readDigits, known, below, if_true, read]

theorem readDigits_eq_ok_iff {radix limit value n : Nat} {cs : List Char} (positive : 0 < radix)
    (below : value < limit) :
    readDigits radix limit value cs = .ok n ↔
      ∃ ds, Digits radix cs ds ∧
        n = value * radix ^ ds.length + Nat.ofDigits radix ds.reverse ∧ n < limit := by
  induction cs generalizing value with
  | nil =>
    simp only [readDigits, Digits, Except.ok.injEq, List.forall₂_nil_left_iff, exists_eq_left,
      List.length_nil, pow_zero, mul_one, List.reverse_nil, Nat.ofDigits_nil, add_zero]
    constructor
    · rintro rfl
      exact ⟨rfl, below⟩
    · rintro ⟨rfl, -⟩
      rfl
  | cons c cs ih =>
    rw [readDigits_cons_eq_ok_iff]
    constructor
    · rintro ⟨d, known, next, read⟩
      obtain ⟨ds, spelled, value, fits⟩ := (ih next).mp read
      rw [horner] at value
      exact ⟨d :: ds, .cons known spelled, value, fits⟩
    · rintro ⟨_, spelled, number, fits⟩
      cases spelled with
      | @cons _ d _ ds known spelled =>
        rw [← horner] at number
        -- The number only grows with the digits that follow.
        have grows : value * radix + d ≤ (value * radix + d) * radix ^ ds.length :=
          Nat.le_mul_of_pos_right _ (by positivity)
        have next : value * radix + d < limit := by omega
        exact ⟨d, known, next, (ih next).mpr ⟨ds, spelled, number, fits⟩⟩

theorem readNumeral_signed {radix limit : Nat} {digits : List Char} (some : digits ≠ []) :
    readNumeral radix limit ('+' :: digits) = readDigits radix limit 0 digits := by
  cases digits with
  | nil => exact absurd rfl some
  | cons c digits => rfl

theorem readNumeral_unsigned {radix limit : Nat} {c : Char} {digits : List Char} (plain : c ≠ '+') :
    readNumeral radix limit (c :: digits) = readDigits radix limit 0 (c :: digits) := by
  unfold readNumeral
  split
  · contradiction
  · simp_all
  · simp_all
  · rfl

/-- A number and its digits, the first the most significant. -/
def Numbers (radix : Nat) (cs : List Char) (n : Nat) : Prop :=
  cs ≠ [] ∧ ∃ ds, Digits radix cs ds ∧ n = Nat.ofDigits radix ds.reverse

theorem Numbers.head_ne {radix n : Nat} {c : Char} {cs : List Char}
    (written : Numbers radix (c :: cs) n) : c ≠ '+' ∧ c ≠ '-' := by
  obtain ⟨-, _, digits, -⟩ := written
  cases digits with
  | cons known _ =>
    constructor
    · rintro rfl
      cases known
    · rintro rfl
      cases known

theorem readDigits_eq_ok_iff_numbers {radix limit n : Nat} {cs : List Char} (positive : 0 < radix)
    (bound : 0 < limit) (some : cs ≠ []) :
    readDigits radix limit 0 cs = .ok n ↔ Numbers radix cs n ∧ n < limit := by
  rw [readDigits_eq_ok_iff positive bound]
  constructor
  · rintro ⟨ds, digits, value, fits⟩
    rw [Nat.zero_mul, Nat.zero_add] at value
    exact ⟨⟨some, ds, digits, value⟩, fits⟩
  · rintro ⟨⟨-, ds, digits, value⟩, fits⟩
    refine ⟨ds, digits, ?_, fits⟩
    rw [Nat.zero_mul, Nat.zero_add, value]

theorem readNumeral_eq_ok_iff_numbers {radix limit n : Nat} {numeral : List Char}
    (positive : 0 < radix) (bound : 0 < limit) :
    readNumeral radix limit numeral = .ok n ↔
      ∃ cs, (numeral = cs ∨ numeral = '+' :: cs) ∧ Numbers radix cs n ∧ n < limit := by
  constructor
  · intro read
    cases numeral with
    | nil => cases read
    | cons c rest =>
      by_cases sign : c = '+'
      · subst sign
        have some : rest ≠ [] := by
          rintro rfl
          cases read
        rw [readNumeral_signed some] at read
        exact ⟨rest, .inr rfl, (readDigits_eq_ok_iff_numbers positive bound some).mp read⟩
      · rw [readNumeral_unsigned sign] at read
        have some := List.cons_ne_nil c rest
        exact ⟨c :: rest, .inl rfl, (readDigits_eq_ok_iff_numbers positive bound some).mp read⟩
  · rintro ⟨cs, written, numbers, fits⟩
    have read := (readDigits_eq_ok_iff_numbers positive bound numbers.1).mpr ⟨numbers, fits⟩
    rcases written with rfl | rfl
    · cases numeral with
      | nil => exact absurd rfl numbers.1
      | cons c rest => rwa [readNumeral_unsigned numbers.head_ne.1]
    · rwa [readNumeral_signed numbers.1]

theorem readNumeral_eq_ok_iff {numeral : List Char} {n : Nat} :
    readNumeral 16 0x10000 numeral = .ok n ↔ Spells numeral n := by
  rw [readNumeral_eq_ok_iff_numbers (by decide) (by decide)]
  simp only [Numbers, digits_iff_standsFor]
  constructor
  · rintro ⟨cs, written, ⟨some, ds, spelled, value⟩, fits⟩
    exact ⟨cs, ds, written, some, spelled, value, fits⟩
  · rintro ⟨cs, ds, written, some, spelled, value, fits⟩
    exact ⟨cs, written, ⟨some, ds, spelled, value⟩, fits⟩

/-- An integer in plain text: decimal digits after at most one sign. -/
def Writes (numeral : List Char) (v : Int) : Prop :=
  ∃ cs n, Numbers 10 cs n ∧
    (numeral = cs ∧ v = n ∨ numeral = '+' :: cs ∧ v = n ∨ numeral = '-' :: cs ∧ v = -n)

theorem map_eq_ok_iff {α β ε : Type} {f : α → β} {read : Except ε α} {b : β} :
    read.map f = .ok b ↔ ∃ a, read = .ok a ∧ f a = b := by
  cases read <;> simp [Except.map]

theorem readInteger_below_zero {limit : Nat} {cs : List Char} (some : cs ≠ []) :
    readInteger limit ('-' :: cs) =
      (readDigits 10 (limit + 1) 0 cs).map fun n : Nat => -(n : Int) := by
  cases cs with
  | nil => exact absurd rfl some
  | cons c cs =>
    rw [readInteger]
    cases readDigits 10 (limit + 1) 0 (c :: cs) <;> rfl

theorem readInteger_of_head_ne {limit : Nat} {numeral : List Char}
    (plain : numeral.head? ≠ some '-') :
    readInteger limit numeral = (readNumeral 10 limit numeral).map Int.ofNat := by
  unfold readInteger
  split
  · exact absurd rfl plain
  · rfl

/-- Integers are read from such texts only, and within bounds. -/
theorem readInteger_eq_ok_iff {limit : Nat} {numeral : List Char} {v : Int} (bound : 0 < limit) :
    readInteger limit numeral = .ok v ↔ Writes numeral v ∧ -limit ≤ v ∧ v < limit := by
  by_cases sign : numeral.head? = some '-'
  · obtain ⟨cs, rfl⟩ := List.head?_eq_some_iff.mp sign
    constructor
    · intro read
      have some : cs ≠ [] := by
        rintro rfl
        cases read
      rw [readInteger_below_zero some, map_eq_ok_iff] at read
      obtain ⟨n, digits, rfl⟩ := read
      obtain ⟨numbers, fits⟩ :=
        (readDigits_eq_ok_iff_numbers (by decide) (by omega) some).mp digits
      exact ⟨⟨cs, n, numbers, .inr (.inr ⟨rfl, rfl⟩)⟩, by omega, by omega⟩
    · rintro ⟨⟨digits, n, numbers, ⟨rfl, -⟩ | ⟨same, -⟩ | ⟨same, rfl⟩⟩, above, -⟩
      · exact absurd rfl numbers.head_ne.2
      · cases same
      · cases same
        rw [readInteger_below_zero numbers.1, map_eq_ok_iff]
        have fits : n < limit + 1 := by omega
        exact ⟨n, (readDigits_eq_ok_iff_numbers (by decide) (by omega) numbers.1).mpr
          ⟨numbers, fits⟩, rfl⟩
  · rw [readInteger_of_head_ne sign, map_eq_ok_iff]
    simp only [readNumeral_eq_ok_iff_numbers (Nat.succ_pos 9) bound]
    constructor
    · rintro ⟨n, ⟨cs, written, numbers, fits⟩, rfl⟩
      refine ⟨⟨cs, n, numbers, ?_⟩, ?_⟩
      · rcases written with rfl | rfl
        · exact .inl ⟨rfl, rfl⟩
        · exact .inr (.inl ⟨rfl, rfl⟩)
      · have value : Int.ofNat n = n := rfl
        omega
    · rintro ⟨⟨cs, n, numbers, ⟨rfl, rfl⟩ | ⟨rfl, rfl⟩ | ⟨rfl, -⟩⟩, -, below⟩
      · exact ⟨n, ⟨_, .inl rfl, numbers, by omega⟩, rfl⟩
      · exact ⟨n, ⟨cs, .inr rfl, numbers, by omega⟩, rfl⟩
      · exact absurd rfl sign

theorem Spells.ne_nil {numeral : List Char} {n : Nat} (spelled : Spells numeral n) :
    numeral ≠ [] := by
  obtain ⟨digits, _, rfl | rfl, some, _⟩ := spelled
  · exact some
  · exact List.cons_ne_nil '+' digits

theorem Spells.lt {numeral : List Char} {n : Nat} (spelled : Spells numeral n) : n < 2 ^ 16 := by
  obtain ⟨_, _, _, _, _, _, small⟩ := spelled
  exact small

/-- A number is written with its digits, the last of which is the remainder. -/
theorem exists_values_hexDigits (n : Nat) :
    ∃ values, List.Forall₂ StandsFor (hexDigits n) values ∧ n = Nat.ofDigits 16 values.reverse := by
  induction n using Nat.strongRecOn with
  | ind n ih =>
    by_cases small : n < 16
    · refine ⟨[n], ?_, ?_⟩
      · rw [hexDigits_of_lt small]
        exact .cons ⟨small, .inl rfl⟩ .nil
      · rw [List.reverse_singleton, Nat.ofDigits_singleton]
    · obtain ⟨values, each, value⟩ := ih (n / 16) (by omega)
      refine ⟨values ++ [n % 16], ?_, ?_⟩
      · rw [hexDigits_of_le (by omega)]
        exact List.rel_append each (.cons ⟨by omega, .inl rfl⟩ .nil)
      · rw [List.reverse_append, List.reverse_singleton, List.singleton_append,
          Nat.ofDigits_cons, ← value]
        omega

/-- What is written is one of the numerals that are read. -/
theorem spells_hexDigits {n : Nat} (small : n < 2 ^ 16) : Spells (hexDigits n) n := by
  obtain ⟨values, each, value⟩ := exists_values_hexDigits n
  exact ⟨hexDigits n, values, .inl rfl, Nat.toDigits_ne_nil, each, value, small⟩

/-- What is written between numerals, or before one, is never part of it. -/
theorem Spells.not_mem {numeral : List Char} {n : Nat} {c : Char} (spelled : Spells numeral n)
    (other : c ∈ ['-', ':', 'x', 'X', '#']) : c ∉ numeral := by
  obtain ⟨digits, values, written, -, each, -⟩ := spelled
  have absent : ∀ c ∈ digits, c ∉ ['+', '-', ':', 'x', 'X', '#'] :=
    forall_mem_of_forall₂ each fun _ _ => StandsFor.not_mem
  have outside : c ∉ digits := fun among => absent c among (List.mem_cons_of_mem '+' other)
  rcases written with rfl | rfl
  · exact outside
  · have plain : c ≠ '+' := by
      rintro rfl
      simp at other
    simp [plain, outside]

theorem Spells.solid {numeral : List Char} {n : Nat} (spelled : Spells numeral n) :
    Solid numeral := by
  obtain ⟨digits, values, written, -, each, -⟩ := spelled
  have plain : Solid digits := forall_mem_of_forall₂ each fun _ _ => StandsFor.not_blank
  rcases written with rfl | rfl
  · exact plain
  · exact List.forall_mem_cons.mpr ⟨by decide, plain⟩

end SwitchAgent.Text
