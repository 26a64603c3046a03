import Mathlib.Algebra.Group.Int.Defs
import Mathlib.Algebra.Group.Nat.Defs
import Mathlib.Data.List.TakeDrop
import SwitchAgent.Json.Writer
import SwitchAgent.Proofs.Text.Pieces

/-!
# Tokens read back

Numerals and strings as they are written, and what the reader makes of them. A numeral ends where
no digit, point or power follows; a string ends at its own quote, whatever characters it has.
-/

namespace SwitchAgent.Json

/-- What may follow a value inside a document. -/
def Delimits : List Char → Prop
  | [] => True
  | c :: _ => c = ',' ∨ c = ']' ∨ c = '\x7d'

theorem isDigit_of_mem_decimalDigits {n : Nat} {c : Char} (h : c ∈ decimalDigits n) :
    c.isDigit = true :=
  Nat.isDigit_of_mem_toDigits (by decide) (by decide) h

/-- No numeral has leading zeros. -/
theorem decimalDigits_ne_zero_cons (n : Nat) (c : Char) (cs : List Char) :
    decimalDigits n ≠ '0' :: c :: cs := by
  rw [decimalDigits]
  induction n using Nat.strongRecOn generalizing c cs with
  | ind n ih =>
    by_cases small : n < 10
    · rw [Nat.toDigits_of_lt_base small]
      simp
    · rw [Nat.toDigits_of_base_le (by decide) (Nat.not_lt.mp small)]
      intro same
      cases front : Nat.toDigits 10 (n / 10) with
      | nil => exact Nat.toDigits_ne_nil front
      | cons d ds =>
        rw [front, List.cons_append] at same
        obtain ⟨rfl, same⟩ := List.cons.inj same
        cases ds with
        | nil =>
          -- Only zero is written as a zero alone.
          have value := Nat.ofDigitChars_ten_toDigits (n := n / 10)
          rw [front] at value
          have zero : n / 10 = 0 := value.symm
          omega
        | cons d ds => exact ih (n / 10) (by omega) d ds front

theorem Delimits.not_digit {rest : List Char} (ends : Delimits rest) :
    rest.span Char.isDigit = ([], rest) := by
  cases rest with
  | nil => rfl
  | cons c cs => rcases ends with rfl | rfl | rfl <;> rfl

theorem readWhole_decimalDigits (n : Nat) {rest : List Char} (ends : Delimits rest) :
    readWhole (decimalDigits n ++ rest) = some (decimalDigits n, rest) := by
  have run : readRun (decimalDigits n ++ rest) = some (decimalDigits n, rest) := by
    rw [readRun, Text.span_append (fun c => isDigit_of_mem_decimalDigits) ends.not_digit]
    cases digits : decimalDigits n with
    | nil => exact absurd digits Nat.toDigits_ne_nil
    | cons d ds => rfl
  have leading := decimalDigits_ne_zero_cons n
  rw [readWhole, run]
  simp only [Option.bind_eq_bind, Option.bind_some]
  rfl

/-- As long as 64 bits hold the number, no digit is left out. -/
theorem takeDigits_eq (digits : List Char) (n : Nat)
    (fits : Nat.ofDigitChars 10 digits n < UInt64.size) :
    takeDigits n digits = (Nat.ofDigitChars 10 digits n, 0) := by
  induction digits generalizing n with
  | nil => rfl
  | cons c cs ih =>
    rw [Nat.ofDigitChars_cons, Nat.mul_comm] at fits ⊢
    have grows := @Nat.ofDigitChars_eq_ofDigitChars_zero cs (n * 10 + (c.toNat - '0'.toNat))
    have weight : 1 ≤ 10 ^ cs.length := Nat.one_le_pow _ _ (by decide)
    have below := Nat.mul_le_mul_right (n * 10 + (c.toNat - '0'.toNat)) weight
    rw [takeDigits, if_pos (by omega)]
    exact ih _ fits

theorem Delimits.no_fraction {rest : List Char} (ends : Delimits rest) :
    readFraction rest = some (none, rest) := by
  cases rest with
  | nil => rfl
  | cons c cs => rcases ends with rfl | rfl | rfl <;> rfl

theorem Delimits.no_exponent {rest : List Char} (ends : Delimits rest) :
    readExponent rest = some (none, rest) := by
  cases rest with
  | nil => rfl
  | cons c cs => rcases ends with rfl | rfl | rfl <;> rfl

theorem readNumeral_decimalDigits (negative : Bool) {n : Nat} (fits : n < UInt64.size)
    {rest : List Char} (ends : Delimits rest) :
    readNumeral negative (decimalDigits n ++ rest) = some (⟨negative, n, 0, true⟩, rest) := by
  have value : Nat.ofDigitChars 10 (decimalDigits n) 0 = n := Nat.ofDigitChars_ten_toDigits
  have digits := takeDigits_eq (decimalDigits n) 0 (by rw [value]; exact fits)
  rw [readNumeral, readWhole_decimalDigits n ends]
  simp [ends.no_fraction, ends.no_exponent, digits, value, takeDigits]

theorem printed_of_mem_decimalDigits {n : Nat} {d : Char} (among : d ∈ decimalDigits n) :
    0x20 ≤ d.toNat := by
  have digit := isDigit_of_mem_decimalDigits among
  rw [Char.isDigit_iff_toNat] at digit
  exact Nat.le_trans (by decide) digit.1

theorem printed_of_mem_writeInteger {n : Int} {d : Char} (among : d ∈ writeInteger n) :
    0x20 ≤ d.toNat := by
  rw [writeInteger] at among
  split at among
  · rcases List.mem_cons.mp among with rfl | digit
    · decide
    · exact printed_of_mem_decimalDigits digit
  · exact printed_of_mem_decimalDigits among

theorem printed_of_mem_writeNumeral {n : Numeral} {d : Char} (among : d ∈ writeNumeral n) :
    0x20 ≤ d.toNat := by
  rw [writeNumeral, List.mem_append, List.mem_append] at among
  rcases among with (sign | digit) | power
  · split at sign
    · rw [List.mem_singleton.mp sign]
      decide
    · exact absurd sign List.not_mem_nil
  · exact printed_of_mem_decimalDigits digit
  · split at power
    · exact absurd power List.not_mem_nil
    · rcases List.mem_cons.mp power with rfl | digit
      · decide
      · exact printed_of_mem_writeInteger digit

theorem hexValue_digitChar {n : Nat} (small : n < 16) : hexValue (Nat.digitChar n) = some n := by
  have all : ∀ n < 16, hexValue (Nat.digitChar n) = some n := by decide
  exact all n small

/-- A control is written by its number. -/
theorem readGlyphs_control {c : Char} (control : c.toNat < 0x20) (rest : List Char) :
    readGlyphs ('\\' :: 'u' :: '0' :: '0' :: Nat.digitChar (c.toNat / 16) ::
        Nat.digitChar (c.toNat % 16) :: rest) =
      (readGlyphs rest).map fun read => (.char c :: read.1, read.2) := by
  have high := @hexValue_digitChar (c.toNat / 16) (by omega)
  have low := @hexValue_digitChar (c.toNat % 16) (by omega)
  have zero : hexValue '0' = some 0 := by decide
  have unit : hexUnit '0' '0' (Nat.digitChar (c.toNat / 16)) (Nat.digitChar (c.toNat % 16)) =
      some c.toNat := by
    simp only [hexUnit, zero, high, low, Option.bind_eq_bind, Option.bind_some, Option.pure_def,
      Option.some.injEq]
    omega
  have glyph : ofUnit c.toNat = .char c := by
    have plain : (isLeading c.toNat || isTrailing c.toNat) = false := by
      simp only [isLeading, isTrailing, Bool.or_eq_false_iff, Bool.and_eq_false_iff,
        decide_eq_false_iff_not]
      omega
    rw [ofUnit, plain, Char.ofNat_toNat]
    rfl
  cases read : readGlyphs rest <;> simp [readGlyphs, unit, glyph, read]

theorem readGlyphs_plain {c : Char} (quote : c ≠ '"') (backslash : c ≠ '\\')
    (printed : ¬ c.toNat < 0x20) (rest : List Char) :
    readGlyphs (c :: rest) = (readGlyphs rest).map fun read => (.char c :: read.1, read.2) := by
  rw [readGlyphs.eq_def]
  split
  · next same => cases same
  · next same =>
    obtain ⟨rfl, -⟩ := List.cons.inj same
    exact absurd rfl quote
  · next same =>
    obtain ⟨rfl, -⟩ := List.cons.inj same
    exact absurd rfl backslash
  · next same =>
    obtain ⟨rfl, -⟩ := List.cons.inj same
    exact absurd rfl backslash
  · next same =>
    obtain ⟨rfl, rfl⟩ := List.cons.inj same
    cases readGlyphs rest <;> simp [backslash, printed]

theorem readGlyphs_short {e c : Char} (short : shortEscape e = some c) (unit : e ≠ 'u')
    (rest : List Char) :
    readGlyphs ('\\' :: e :: rest) =
      (readGlyphs rest).map fun read => (.char c :: read.1, read.2) := by
  rw [readGlyphs.eq_def]
  split
  · next same => cases same
  · next same => exact absurd (List.cons.inj same).1 (by decide)
  · next same =>
    obtain ⟨rfl, -⟩ := List.cons.inj (List.cons.inj same).2
    exact absurd rfl unit
  · next same =>
    obtain ⟨rfl, rfl⟩ := List.cons.inj (List.cons.inj same).2
    cases readGlyphs rest <;> simp [short]
  · next other same =>
    obtain ⟨rfl, rfl⟩ := List.cons.inj same
    exact absurd rfl (other e rest rfl)

/-- One character, escaped or not, is read back. -/
theorem readGlyphs_escapeChar (c : Char) (rest : List Char) :
    readGlyphs (escapeChar c ++ rest) =
      (readGlyphs rest).map fun read => (.char c :: read.1, read.2) := by
  rw [escapeChar]
  split
  · next h => exact readGlyphs_short (by rw [beq_iff_eq.mp h]; rfl) (by decide) rest
  split
  · next h => exact readGlyphs_short (by rw [beq_iff_eq.mp h]; rfl) (by decide) rest
  split
  · next h => exact readGlyphs_short (by rw [beq_iff_eq.mp h]; rfl) (by decide) rest
  split
  · next h => exact readGlyphs_short (by rw [beq_iff_eq.mp h]; rfl) (by decide) rest
  split
  · next h => exact readGlyphs_short (by rw [beq_iff_eq.mp h]; rfl) (by decide) rest
  split
  · next h => exact readGlyphs_short (by rw [beq_iff_eq.mp h]; rfl) (by decide) rest
  split
  · next h => exact readGlyphs_short (by rw [beq_iff_eq.mp h]; rfl) (by decide) rest
  split
  · next control => exact readGlyphs_control control rest
  · next quote backslash _ _ _ _ _ printed =>
    exact readGlyphs_plain (fun h => quote (beq_iff_eq.mpr h))
      (fun h => backslash (beq_iff_eq.mpr h)) printed rest

/-- No control is written as it is. -/
theorem printed_of_mem_escapeChar {c d : Char} (among : d ∈ escapeChar c) : 0x20 ≤ d.toNat := by
  have digits : ∀ n < 16, 0x20 ≤ (Nat.digitChar n).toNat := by decide
  have high := digits (c.toNat / 16)
  have low := digits (c.toNat % 16) (Nat.mod_lt _ (by decide))
  have pair {e : Char} (printed : 0x20 ≤ e.toNat) (among : d ∈ ['\\', e]) : 0x20 ≤ d.toNat := by
    rcases List.mem_cons.mp among with rfl | among
    · decide
    · rw [List.mem_singleton.mp among]
      exact printed
  rw [escapeChar] at among
  split at among
  · exact pair (by decide) among
  split at among
  · exact pair (by decide) among
  split at among
  · exact pair (by decide) among
  split at among
  · exact pair (by decide) among
  split at among
  · exact pair (by decide) among
  split at among
  · exact pair (by decide) among
  split at among
  · exact pair (by decide) among
  split at among
  · next control =>
    simp only [List.mem_cons, List.not_mem_nil, or_false] at among
    rcases among with rfl | rfl | rfl | rfl | rfl | rfl
    · decide
    · decide
    · decide
    · decide
    · exact high (by omega)
    · exact low
  · next printed =>
    rw [List.mem_singleton.mp among]
    exact Nat.not_lt.mp printed

theorem printed_of_mem_writeString {s : String} {d : Char} (among : d ∈ writeString s) :
    0x20 ≤ d.toNat := by
  rw [writeString, List.mem_append, List.mem_cons, List.mem_singleton] at among
  rcases among with (rfl | inside) | rfl
  · decide
  · obtain ⟨c, -, escaped⟩ := List.mem_flatMap.mp inside
    exact printed_of_mem_escapeChar escaped
  · decide

/-- The characters between the quotes, and what follows them. -/
theorem readGlyphs_writeString (cs rest : List Char) :
    readGlyphs (cs.flatMap escapeChar ++ '"' :: rest) = some (cs.map .char, rest) := by
  induction cs with
  | nil => simp [readGlyphs]
  | cons c cs ih =>
    rw [List.flatMap_cons, List.append_assoc, readGlyphs_escapeChar, ih]
    rfl

theorem joinSurrogates_chars (cs : List Char) :
    joinSurrogates (cs.map .char) = cs.map .char := by
  induction cs with
  | nil => rfl
  | cons c cs ih => simp [joinSurrogates, ih]

theorem readLiteral_writeString (s : String) (rest : List Char) :
    readLiteral (s.toList.flatMap escapeChar ++ '"' :: rest) = some (.ofString s, rest) := by
  simp [readLiteral, readGlyphs_writeString, joinSurrogates_chars, Literal.ofString]

end SwitchAgent.Json
