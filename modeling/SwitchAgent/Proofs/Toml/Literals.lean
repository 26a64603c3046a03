import SwitchAgent.Proofs.Text.Numerals
import SwitchAgent.Toml.Lexis

/-!
# Integer literals

What may be written for an integer in a document, and that it is read as this integer where a term
may stand.
-/

namespace SwitchAgent.Toml

open Text

/-- Digits with single underscores between them, and their values. -/
inductive DigitRun (radix : Nat) : List Char → List Nat → Prop where
  | last {c : Char} {d : Nat} (known : digitValue radix c = some d) : DigitRun radix [c] [d]
  | next {c : Char} {d : Nat} {cs : List Char} {ds : List Nat}
      (known : digitValue radix c = some d) (run : DigitRun radix cs ds) :
      DigitRun radix (c :: cs) (d :: ds)
  | parted {c : Char} {d : Nat} {cs : List Char} {ds : List Nat}
      (known : digitValue radix c = some d) (run : DigitRun radix cs ds) :
      DigitRun radix (c :: '_' :: cs) (d :: ds)

/-- A decimal number has a leading zero only if it is zero. -/
def Whole (cs : List Char) (n : Nat) : Prop :=
  ∃ ds, DigitRun 10 cs ds ∧ (ds.head? = some 0 → ds = [0]) ∧ n = Nat.ofDigits 10 ds.reverse

/-- The letters that mark another radix. -/
def markedRadix? : Char → Option Nat
  | 'x' => some 16
  | 'o' => some 8
  | 'b' => some 2
  | _ => none

/-- A decimal number may have a sign. One in another radix has a mark, and may have leading zeros. -/
inductive Literal : List Char → Int → Prop where
  | plain {cs : List Char} {n : Nat} (whole : Whole cs n) : Literal cs n
  | plus {cs : List Char} {n : Nat} (whole : Whole cs n) : Literal ('+' :: cs) n
  | minus {cs : List Char} {n : Nat} (whole : Whole cs n) : Literal ('-' :: cs) (-n)
  | marked {mark : Char} {radix : Nat} {cs : List Char} {ds : List Nat}
      (known : markedRadix? mark = some radix) (run : DigitRun radix cs ds) :
      Literal ('0' :: mark :: cs) (Nat.ofDigits radix ds.reverse : Nat)

/-- There is room for the integer in 64 bits, one of them for the sign. -/
def Fits (v : Int) : Prop :=
  -0x8000000000000000 ≤ v ∧ v < 0x8000000000000000

/-- What stands after a literal does not go on with it, as a fraction or a time would. -/
def Ends (rest : List Char) : Prop :=
  ∀ c ∈ rest.head?, ¬ isBare c ∧ c ≠ '.' ∧ c ≠ ':'

/-- A digit is no sign, and no letter that dates or times have. -/
theorem bare_of_digitValue {radix d : Nat} {c : Char} (small : radix ≤ 16)
    (known : digitValue radix c = some d) : isBare c ∧ c ∉ ['t', 'T', '-'] := by
  obtain ⟨below, rfl | rfl⟩ := standsFor_of_digitValue small known
  · clear known
    revert d
    decide
  · clear known
    revert d
    decide

theorem DigitRun.bare {radix : Nat} {cs : List Char} {ds : List Nat} (run : DigitRun radix cs ds)
    (small : radix ≤ 16) : ∀ c ∈ cs, isBare c ∧ c ∉ ['t', 'T', '-'] := by
  have underscore : isBare '_' ∧ '_' ∉ ['t', 'T', '-'] := by decide
  induction run with
  | last known => simpa using bare_of_digitValue small known
  | next known _ ih => exact List.forall_mem_cons.mpr ⟨bare_of_digitValue small known, ih⟩
  | parted known _ ih =>
    intro c among
    rcases List.mem_cons.mp among with rfl | among
    · exact bare_of_digitValue small known
    · rcases List.mem_cons.mp among with rfl | among
      · exact underscore
      · exact ih c among

theorem readDigitRun_digit {radix d : Nat} {c : Char} (known : digitValue radix c = some d)
    (needed : Bool) (rest : List Char) :
    readDigitRun radix needed (c :: rest) =
      (readDigitRun radix false rest).map fun run => (c :: run.1, run.2) := by
  simp only [readDigitRun, known, Option.isSome_some, if_true]
  cases readDigitRun radix false rest <;> rfl

theorem readDigitRun_underscore (radix : Nat) (rest : List Char) :
    readDigitRun radix false ('_' :: rest) = readDigitRun radix true rest := by
  have none : digitValue radix '_' = none := rfl
  simp [readDigitRun, none]

theorem readDigitRun_end {radix : Nat} {rest : List Char} (small : radix ≤ 16) (ends : Ends rest) :
    readDigitRun radix false rest = some ([], rest) := by
  cases rest with
  | nil => rfl
  | cons c rest =>
    obtain ⟨other, -⟩ := ends c rfl
    have none : digitValue radix c = none := by
      rw [Option.eq_none_iff_forall_ne_some]
      intro d known
      exact other (bare_of_digitValue small known).1
    have plain : c ≠ '_' := by
      rintro rfl
      exact other rfl
    simp [readDigitRun, none, plain]

theorem readDigitRun_of_run {radix : Nat} {cs : List Char} {ds : List Nat} {rest : List Char}
    (run : DigitRun radix cs ds) (small : radix ≤ 16) (ends : Ends rest) (needed : Bool) :
    ∃ digits, readDigitRun radix needed (cs ++ rest) = some (digits, rest) ∧
      Digits radix digits ds := by
  -- A digit has to follow at the start and after an underscore, but not after a digit.
  induction run generalizing needed with
  | @last c d known =>
    refine ⟨[c], ?_, .cons known .nil⟩
    rw [List.singleton_append, readDigitRun_digit known, readDigitRun_end small ends]
    rfl
  | @next c d cs ds known _ ih =>
    obtain ⟨digits, read, each⟩ := ih false
    refine ⟨c :: digits, ?_, .cons known each⟩
    rw [List.cons_append, readDigitRun_digit known, read]
    rfl
  | @parted c d cs ds known _ ih =>
    obtain ⟨digits, read, each⟩ := ih true
    refine ⟨c :: digits, ?_, .cons known each⟩
    rw [List.cons_append, List.cons_append, readDigitRun_digit known, readDigitRun_underscore, read]
    rfl

theorem ofDigits_of_digits {radix : Nat} {digits : List Char} {ds : List Nat}
    (each : Digits radix digits ds) : ofDigits radix digits = Nat.ofDigits radix ds.reverse := by
  have fold (value : Nat) :
      digits.foldl (fun n c => n * radix + (digitValue radix c).getD 0) value =
        value * radix ^ ds.length + Nat.ofDigits radix ds.reverse := by
    induction each generalizing value with
    | nil => simp
    | cons known _ ih => rw [List.foldl_cons, ih, known, Option.getD_some, horner]
  rw [ofDigits, fold, Nat.zero_mul, Nat.zero_add]

theorem DigitRun.head {radix : Nat} {cs : List Char} {ds : List Nat} (run : DigitRun radix cs ds) :
    ∃ c tail d, cs = c :: tail ∧ ds.head? = some d ∧ digitValue radix c = some d := by
  cases run with
  | last known => exact ⟨_, _, _, rfl, rfl, known⟩
  | next known _ => exact ⟨_, _, _, rfl, rfl, known⟩
  | parted known _ => exact ⟨_, _, _, rfl, rfl, known⟩

theorem Whole.head {cs : List Char} {n : Nat} (whole : Whole cs n) :
    ∃ c tail, cs = c :: tail ∧ c.isDigit := by
  obtain ⟨ds, run, -, -⟩ := whole
  obtain ⟨c, tail, d, rfl, -, known⟩ := run.head
  exact ⟨c, tail, rfl, isDigit_of_digitValue known⟩

/-- After a leading zero a decimal number ends. -/
theorem Whole.eq_zero {tail : List Char} {n : Nat} (whole : Whole ('0' :: tail) n) : tail = [] := by
  obtain ⟨ds, run, leading, -⟩ := whole
  have zero : digitValue 10 '0' = some 0 := rfl
  cases run with
  | last known => rfl
  | next known run =>
    cases known.symm.trans zero
    obtain ⟨_, _, _, -, more, -⟩ := run.head
    cases leading rfl
    cases more
  | parted known run =>
    cases known.symm.trans zero
    obtain ⟨_, _, _, -, more, -⟩ := run.head
    cases leading rfl
    cases more

theorem readWhole_of_whole {cs rest : List Char} {n : Nat} (whole : Whole cs n)
    (ends : Ends rest) :
    ∃ digits, readWhole (cs ++ rest) = some (digits, rest) ∧ ofDigits 10 digits = n := by
  obtain ⟨ds, run, leading, rfl⟩ := whole
  obtain ⟨digits, read, each⟩ := readDigitRun_of_run run (by decide) ends true
  refine ⟨digits, ?_, ofDigits_of_digits each⟩
  simp only [readWhole, read, Option.bind_eq_bind, Option.bind_some]
  split
  · -- The first of several digits is no zero.
    have zero : digitValue 10 '0' = some 0 := rfl
    cases each with
    | cons known each =>
      cases known.symm.trans zero
      cases leading rfl
      cases each
  · rfl

theorem readExponent_end {rest : List Char} (ends : Ends rest) :
    readExponent rest = some (none, rest) := by
  cases rest with
  | nil => rfl
  | cons c rest =>
    have plain : ¬ (c = 'e' ∨ c = 'E') := by
      rintro (rfl | rfl)
      · exact (ends 'e' rfl).1 rfl
      · exact (ends 'E' rfl).1 rfl
    rw [readExponent, if_neg plain]

theorem readDecimalNumber_of_whole {cs rest : List Char} {n : Nat} (whole : Whole cs n)
    (ends : Ends rest) (negative : Bool) :
    readDecimalNumber negative (cs ++ rest) =
      (integerValue (if negative then -(n : Int) else n)).map fun t => (t, rest) := by
  obtain ⟨digits, read, rfl⟩ := readWhole_of_whole whole ends
  have exponent := readExponent_end ends
  simp only [readDecimalNumber, read, Option.bind_eq_bind, Option.bind_some]
  split
  · rename_i point _
    exact absurd rfl (ends '.' rfl).2.1
  · simp only [exponent, Option.bind_some, Option.isNone_none, and_self, if_true]
    exact (Option.map_eq_bind ..).symm

theorem isBare_of_isDigit {c : Char} (digit : c.isDigit) : isBare c := by
  simp [isBare, Char.isAlphanum, digit]

theorem readRadix_of_run {radix : Nat} {cs rest : List Char} {ds : List Nat} {t : Term}
    (run : DigitRun radix cs ds) (small : radix ≤ 16) (ends : Ends rest)
    (value : integerValue (Nat.ofDigits radix ds.reverse : Nat) = some t) :
    readRadix radix (cs ++ rest) = some (t, rest) := by
  obtain ⟨digits, read, each⟩ := readDigitRun_of_run run small ends true
  rw [← ofDigits_of_digits each] at value
  refine Option.bind_eq_some_iff.mpr ⟨(digits, rest), read, ?_⟩
  exact Option.bind_eq_some_iff.mpr ⟨t, value, rfl⟩

/-- What starts with a digit is no name. -/
theorem named_of_isDigit {c : Char} (digit : c.isDigit) (negative : Bool) (tail : List Char) :
    named negative (String.ofList ((c :: tail).takeWhile isBare)) = none := by
  rw [List.takeWhile_cons_of_pos (isBare_of_isDigit digit)]
  unfold named
  split
  · rename_i same
    have chars : c :: tail.takeWhile isBare = ['i', 'n', 'f'] := by
      simpa using congrArg String.toList same
    obtain ⟨rfl, -⟩ := List.cons.inj chars
    exact absurd digit (by decide)
  · rename_i same
    have chars : c :: tail.takeWhile isBare = ['n', 'a', 'n'] := by
      simpa using congrArg String.toList same
    obtain ⟨rfl, -⟩ := List.cons.inj chars
    exact absurd digit (by decide)
  · rfl

theorem cutMinus_of_isDigit {c : Char} (digit : c.isDigit) (tail : List Char) :
    cutMinus (c :: tail) = (false, c :: tail) := by
  unfold cutMinus
  split
  · rename_i same
    obtain ⟨rfl, -⟩ := List.cons.inj same
    exact absurd digit (by decide)
  · rfl

theorem markedRadix?_eq_some_iff {mark : Char} {radix : Nat} :
    markedRadix? mark = some radix ↔
      mark = 'x' ∧ radix = 16 ∨ mark = 'o' ∧ radix = 8 ∨ mark = 'b' ∧ radix = 2 := by
  unfold markedRadix?
  split <;> simp_all [eq_comm]

theorem markedRadix?_le {mark : Char} {radix : Nat} (known : markedRadix? mark = some radix) :
    radix ≤ 16 := by
  rcases markedRadix?_eq_some_iff.mp known with ⟨-, rfl⟩ | ⟨-, rfl⟩ | ⟨-, rfl⟩ <;> decide

/-- After a decimal number there is no mark. -/
theorem Whole.unmarked {cs rest : List Char} {n : Nat} (whole : Whole cs n) (ends : Ends rest)
    (mark : Char) (tail : List Char) (same : cs ++ rest = '0' :: mark :: tail) :
    markedRadix? mark = none := by
  obtain ⟨c, tail', rfl, -⟩ := whole.head
  obtain ⟨rfl, same⟩ := List.cons.inj same
  cases whole.eq_zero
  cases same
  obtain ⟨other, -⟩ := ends mark rfl
  rw [Option.eq_none_iff_forall_ne_some]
  intro radix known
  rcases markedRadix?_eq_some_iff.mp known with ⟨rfl, -⟩ | ⟨rfl, -⟩ | ⟨rfl, -⟩
  · exact other rfl
  · exact other rfl
  · exact other rfl

/-- A number is read if nothing marks a radix and no name is given. -/
theorem readUnmarked_of_decimal {cs ds rest : List Char} {negative : Bool} {t : Term}
    (unmarked : ∀ mark tail, cs = '0' :: mark :: tail → markedRadix? mark = none)
    (sign : cutMinus cs = (negative, ds))
    (unnamed : named negative (String.ofList (ds.takeWhile isBare)) = none)
    (read : readDecimalNumber negative ds = some (t, rest)) (ends : Ends rest) :
    readUnmarked cs = some (t, rest) := by
  unfold readUnmarked
  split
  · cases unmarked _ _ rfl
  · cases unmarked _ _ rfl
  · cases unmarked _ _ rfl
  · simp only [sign, unnamed, read, Option.bind_eq_bind, Option.bind_some]
    cases rest with
    | nil => rfl
    | cons c rest => simp [(ends c rfl).1]

theorem readUnmarked_of_radix {mark : Char} {radix : Nat} {cs rest : List Char} {t : Term}
    (known : markedRadix? mark = some radix) (read : readRadix radix cs = some (t, rest))
    (ends : Ends rest) : readUnmarked ('0' :: mark :: cs) = some (t, rest) := by
  rcases markedRadix?_eq_some_iff.mp known with ⟨rfl, rfl⟩ | ⟨rfl, rfl⟩ | ⟨rfl, rfl⟩ <;>
    simp only [readUnmarked, read, Option.bind_eq_bind, Option.bind_some] <;>
    cases rest with
    | nil => rfl
    | cons c rest => simp [(ends c rfl).1]

theorem integerValue_of_fits {v : Int} (fits : Fits v) : integerValue v = some (.integer v) :=
  if_pos fits

theorem readUnmarked_of_literal {cs rest : List Char} {v : Int} (literal : Literal cs v)
    (fits : Fits v) (plain : cs.head? ≠ some '+') (ends : Ends rest) :
    readUnmarked (cs ++ rest) = some (.integer v, rest) := by
  cases literal with
  | @plain _ n whole =>
    have read := readDecimalNumber_of_whole whole ends false
    rw [if_neg Bool.false_ne_true, integerValue_of_fits fits] at read
    have unmarked := whole.unmarked ends
    obtain ⟨c, tail, rfl, digit⟩ := whole.head
    exact readUnmarked_of_decimal unmarked (cutMinus_of_isDigit digit _)
      (named_of_isDigit digit _ _) read ends
  | plus whole => exact absurd rfl plain
  | @minus cs n whole =>
    have read := readDecimalNumber_of_whole whole ends true
    rw [if_pos rfl, integerValue_of_fits fits] at read
    have unmarked : ∀ mark tail, '-' :: cs ++ rest = '0' :: mark :: tail →
        markedRadix? mark = none := by
      intro mark tail same
      cases same
    obtain ⟨c, tail, rfl, digit⟩ := whole.head
    exact readUnmarked_of_decimal unmarked rfl (named_of_isDigit digit _ _) read ends
  | @marked mark radix cs ds known run =>
    have read := readRadix_of_run run (markedRadix?_le known) ends (integerValue_of_fits fits)
    exact readUnmarked_of_radix known read ends

theorem Literal.ne_nil {cs : List Char} {v : Int} (literal : Literal cs v) : cs ≠ [] := by
  cases literal with
  | plain whole =>
    obtain ⟨c, tail, rfl, -⟩ := whole.head
    exact List.cons_ne_nil c tail
  | plus _ => exact List.cons_ne_nil _ _
  | minus _ => exact List.cons_ne_nil _ _
  | marked _ _ => exact List.cons_ne_nil _ _

theorem readNumber_of_literal {cs rest : List Char} {v : Int} (literal : Literal cs v)
    (fits : Fits v) (ends : Ends rest) :
    readNumber (cs ++ rest) = some (.integer v, rest) := by
  by_cases sign : cs.head? = some '+'
  · obtain ⟨tail, rfl⟩ := List.head?_eq_some_iff.mp sign
    cases literal with
    | plain whole =>
      obtain ⟨_, _, same, digit⟩ := whole.head
      cases same
      exact absurd digit (by decide)
    | @plus _ n whole =>
      obtain ⟨c, tail, rfl, digit⟩ := whole.head
      have plain : (c :: tail).head? ≠ some '+' := by
        intro same
        cases same
        exact absurd digit (by decide)
      exact readUnmarked_of_literal (.plain whole) fits plain ends
  · have read := readUnmarked_of_literal literal fits sign ends
    obtain ⟨c, tail, rfl⟩ := List.exists_cons_of_ne_nil literal.ne_nil
    unfold readNumber
    split
    · rename_i same
      cases same
      exact absurd rfl sign
    · exact read

/-- Apart from its sign a literal has neither the letter nor the dash of a date. -/
theorem Whole.bare {cs : List Char} {n : Nat} (whole : Whole cs n) :
    ∀ c ∈ cs, isBare c ∧ c ∉ ['t', 'T', '-'] := by
  obtain ⟨ds, run, -⟩ := whole
  exact run.bare (by decide)

theorem bare_of_marked {mark : Char} {radix : Nat} {cs : List Char} {ds : List Nat}
    (known : markedRadix? mark = some radix) (run : DigitRun radix cs ds) :
    ∀ c ∈ mark :: cs, isBare c ∧ c ∉ ['t', 'T', '-'] := by
  intro c among
  rcases List.mem_cons.mp among with rfl | among
  · rcases markedRadix?_eq_some_iff.mp known with ⟨rfl, -⟩ | ⟨rfl, -⟩ | ⟨rfl, -⟩ <;> decide
  · exact run.bare (markedRadix?_le known) c among

/-- Only a plus sign is no character of a key. -/
theorem Literal.chars {cs : List Char} {v : Int} (literal : Literal cs v) :
    ∀ c ∈ cs, isBare c ∨ c = '+' := by
  intro c among
  cases literal with
  | plain whole => exact .inl (whole.bare c among).1
  | plus whole =>
    rcases List.mem_cons.mp among with rfl | among
    · exact .inr rfl
    · exact .inl (whole.bare c among).1
  | minus whole =>
    rcases List.mem_cons.mp among with rfl | among
    · exact .inl rfl
    · exact .inl (whole.bare c among).1
  | marked known run =>
    rcases List.mem_cons.mp among with rfl | among
    · exact .inl rfl
    · exact .inl (bare_of_marked known run c among).1

theorem isDatetime_eq_false {c : Char} {tail rest : List Char} (first : c ∉ ['t', 'T'])
    (others : ∀ c ∈ tail, c ∉ ['t', 'T', '-']) (ends : Ends rest) :
    isDatetime (c :: tail) rest = false := by
  have letters : (c :: tail).any (fun c => c == 't' || c == 'T') = false := by
    rw [List.any_eq_false]
    intro e among
    rcases List.mem_cons.mp among with rfl | among
    · simpa using first
    · have other := others e among
      simp_all
  have dash : '-' ∉ tail := by
    intro among
    exact others '-' among (by decide)
  have colon : rest.head? ≠ some ':' := by
    intro same
    exact (ends ':' same).2.2 rfl
  simp [isDatetime, letters, dash, colon]

/-- What starts like a number and is no date is read as a number. -/
theorem readPlain_of_head {c : Char} {tail rest : List Char} (leads : c.isDigit ∨ c = '-')
    (others : ∀ c ∈ tail, isBare c ∧ c ∉ ['t', 'T', '-']) (ends : Ends rest) :
    readPlain (c :: tail ++ rest) = readNumber (c :: tail ++ rest) := by
  have bare : ∀ e ∈ c :: tail, isBare e = true := by
    intro e among
    rcases List.mem_cons.mp among with rfl | among
    · rcases leads with digit | rfl
      · exact isBare_of_isDigit digit
      · rfl
    · exact (others e among).1
  have stops : rest.span isBare = ([], rest) := by
    cases rest with
    | nil => rfl
    | cons e rest =>
      have other := (ends e rfl).1
      simp [List.span_eq_takeWhile_dropWhile, other]
  have first : c ∉ ['t', 'T', 'f'] := by
    rcases leads with digit | rfl
    · intro among
      simp only [List.mem_cons, List.not_mem_nil, or_false] at among
      rcases among with rfl | rfl | rfl <;> exact absurd digit (by decide)
    · decide
  have undated : isDatetime (c :: tail) rest = false := by
    refine isDatetime_eq_false ?_ (fun e among => (others e among).2) ends
    simp_all
  have numeric : isNumeric (c :: tail) = true := by
    rcases leads with digit | rfl <;> simp [isNumeric, *]
  unfold readPlain
  rw [span_append bare stops]
  dsimp only
  split
  · rename_i same
    have chars : c :: tail = ['t', 'r', 'u', 'e'] := by
      simpa using congrArg String.toList same
    simp_all
  · rename_i same
    have chars : c :: tail = ['f', 'a', 'l', 's', 'e'] := by
      simpa using congrArg String.toList same
    simp_all
  · rw [if_pos numeric, if_neg (by simp [undated])]

theorem readPlain_plus (tail : List Char) : readPlain ('+' :: tail) = readNumber ('+' :: tail) := by
  have cut : ('+' :: tail).span isBare = ([], '+' :: tail) := by
    rw [List.span_eq_takeWhile_dropWhile]
    rfl
  unfold readPlain
  rw [cut]
  rfl

theorem readPlain_of_literal {cs rest : List Char} {v : Int} (literal : Literal cs v)
    (fits : Fits v) (ends : Ends rest) : readPlain (cs ++ rest) = some (.integer v, rest) := by
  rw [← readNumber_of_literal literal fits ends]
  cases literal with
  | plain whole =>
    have chars := whole.bare
    obtain ⟨c, tail, rfl, digit⟩ := whole.head
    exact readPlain_of_head (.inl digit) (List.forall_mem_cons.mp chars).2 ends
  | plus whole => exact readPlain_plus _
  | minus whole => exact readPlain_of_head (.inr rfl) whole.bare ends
  | marked known run => exact readPlain_of_head (.inl rfl) (bare_of_marked known run) ends

end SwitchAgent.Toml
