import Mathlib.Algebra.Group.Nat.Defs
import Mathlib.Data.List.TakeDrop
import SwitchAgent.Text.Numeral

/-!
# Hexadecimal numerals told apart

A number is written with hexadecimal digits only, and no two numbers alike. So numerals that are
joined by other characters can be cut apart again.
-/

namespace SwitchAgent.Text

/-- What a digit below the radix is written as. -/
def IsHexDigit (c : Char) : Prop :=
  ∃ d < 16, c = Nat.digitChar d

theorem digitChar_inj_of_lt : ∀ d < 16, ∀ e < 16, Nat.digitChar d = Nat.digitChar e → d = e := by
  decide

theorem hexDigits_of_lt {n : Nat} (small : n < 16) : hexDigits n = [Nat.digitChar n] :=
  Nat.toDigits_of_lt_base small

theorem hexDigits_of_le {n : Nat} (large : 16 ≤ n) :
    hexDigits n = hexDigits (n / 16) ++ [Nat.digitChar (n % 16)] :=
  Nat.toDigits_of_base_le (by decide) large

theorem isHexDigit_of_mem {n : Nat} {c : Char} (among : c ∈ hexDigits n) : IsHexDigit c := by
  induction n using Nat.strongRecOn with
  | ind n ih =>
    by_cases small : n < 16
    · rw [hexDigits_of_lt small] at among
      exact ⟨n, small, List.mem_singleton.mp among⟩
    · rw [hexDigits_of_le (by omega)] at among
      rcases List.mem_append.mp among with front | last
      · exact ih (n / 16) (by omega) front
      · exact ⟨n % 16, by omega, List.mem_singleton.mp last⟩

/-- The last digit and the digits before it are those of the quotient. -/
theorem hexDigits_inj {m n : Nat} (same : hexDigits m = hexDigits n) : m = n := by
  induction m using Nat.strongRecOn generalizing n with
  | ind m ih =>
    by_cases small : m < 16
    · by_cases small' : n < 16
      · rw [hexDigits_of_lt small, hexDigits_of_lt small'] at same
        exact digitChar_inj_of_lt m small n small' (List.singleton_inj.mp same)
      · rw [hexDigits_of_lt small, hexDigits_of_le (by omega)] at same
        have alone : [] ++ [m.digitChar] = hexDigits (n / 16) ++ [(n % 16).digitChar] := same
        have none := (List.append_inj' alone rfl).1
        exact absurd none.symm Nat.toDigits_ne_nil
    · by_cases small' : n < 16
      · rw [hexDigits_of_le (by omega), hexDigits_of_lt small'] at same
        have alone : hexDigits (m / 16) ++ [(m % 16).digitChar] = [] ++ [n.digitChar] := same
        have none := (List.append_inj' alone rfl).1
        exact absurd none Nat.toDigits_ne_nil
      · rw [hexDigits_of_le (n := m) (by omega), hexDigits_of_le (n := n) (by omega)] at same
        obtain ⟨front, last⟩ := List.append_inj' same rfl
        have quotient := ih (m / 16) (by omega) front
        have rest := digitChar_inj_of_lt (m % 16) (by omega) (n % 16) (by omega)
          (List.singleton_inj.mp last)
        omega

theorem separator_not_mem_hexDigits {c : Char} (separator : c = '_' ∨ c = '-' ∨ c = ':') (n : Nat) :
    c ∉ hexDigits n := by
  intro among
  obtain ⟨d, below, same⟩ := isHexDigit_of_mem among
  have none : ∀ d < 16, Nat.digitChar d ≠ '_' ∧ Nat.digitChar d ≠ '-' ∧ Nat.digitChar d ≠ ':' := by
    decide
  obtain ⟨underscore, dash, colon⟩ := none d below
  rcases separator with rfl | rfl | rfl
  · exact underscore same.symm
  · exact dash same.symm
  · exact colon same.symm

/-- A list is cut at the first place of an element. -/
theorem append_cons_inj_of_not_mem {α : Type} {a : α} {first first' rest rest' : List α}
    (absent : a ∉ first) (absent' : a ∉ first')
    (same : first ++ a :: rest = first' ++ a :: rest') : first = first' ∧ rest = rest' := by
  induction first generalizing first' with
  | nil =>
    cases first' with
    | nil => exact ⟨rfl, (List.cons.inj same).2⟩
    | cons b first' =>
      have here := (List.cons.inj same).1
      exact absurd (here ▸ List.mem_cons_self) absent'
  | cons b first ih =>
    cases first' with
    | nil =>
      have here := (List.cons.inj same).1
      exact absurd (here ▸ List.mem_cons_self) absent
    | cons b' first' =>
      obtain ⟨rfl, later⟩ := List.cons.inj same
      obtain ⟨rfl, rests⟩ := ih (fun h => absent (List.mem_cons_of_mem b h))
        (fun h => absent' (List.mem_cons_of_mem b h)) later
      exact ⟨rfl, rests⟩

/-- Of two numerals joined by a separator, each is known. -/
theorem hexDigits_append_cons_inj {c : Char} (separator : c = '_' ∨ c = '-' ∨ c = ':') {m n : Nat}
    {rest rest' : List Char} (same : hexDigits m ++ c :: rest = hexDigits n ++ c :: rest') :
    m = n ∧ rest = rest' := by
  obtain ⟨digits, rests⟩ := append_cons_inj_of_not_mem (separator_not_mem_hexDigits separator m)
    (separator_not_mem_hexDigits separator n) same
  exact ⟨hexDigits_inj digits, rests⟩

end SwitchAgent.Text
