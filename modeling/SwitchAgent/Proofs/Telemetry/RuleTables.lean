import Mathlib.Logic.Relation
import SwitchAgent.Proofs.Address.Representations
import SwitchAgent.Proofs.Telemetry.RuleLines

/-!
# Tables of rules, line by line

A table says what its lines say, in their order, and the first bad line is the fault of the whole.
How lines end, blanks around them, and lines without a rule make no difference. So a table that is
written with them, rule by rule, is read back.
-/

namespace SwitchAgent.Telemetry

open Text

/-- A line without a rule: blank, or a remark. -/
def Idle (line : List Char) : Prop :=
  Blank line ∨ ∃ lead remark, Blank lead ∧ line = lead ++ '#' :: remark

/-- A text has these lines, with a line feed between any two. -/
structure HasLines (text : List Char) (lines : List (List Char)) : Prop where
  joined : text = ['\n'].intercalate lines
  some : lines ≠ []
  whole : ∀ line ∈ lines, '\n' ∉ line

theorem hasLines_iff {text : List Char} {lines : List (List Char)} :
    HasLines text lines ↔ pieces (· == '\n') text = lines := by
  constructor
  · rintro ⟨rfl, some, whole⟩
    exact pieces_intercalate some whole
  · rintro rfl
    refine ⟨(intercalate_pieces '\n' text).symm, pieces_ne_nil _ text, ?_⟩
    intro line among inside
    exact not_separates_of_mem_pieces _ among '\n' inside (beq_self_eq_true '\n')

theorem idle_iff {line : List Char} : Idle line ↔ RuleTable.isRule (trim line) = false := by
  constructor
  · rintro (blank | ⟨lead, remark, blank, rfl⟩)
    · rw [trim_blank blank]
      rfl
    · have solid : ¬ isBlank '#' := by decide
      obtain ⟨rest, same⟩ := exists_trim_cons solid remark
      rw [trim_append_of_blank blank, same]
      rfl
  · intro none
    obtain ⟨lead, trail, before, behind, whole⟩ := exists_around_trim line
    cases left : trim line with
    | nil =>
      rw [left, List.nil_append] at whole
      exact .inl (whole ▸ List.forall_mem_append.mpr ⟨before, behind⟩)
    | cons c rest =>
      have mark : c = '#' := by simpa [left, RuleTable.isRule] using none
      rw [left, mark] at whole
      exact .inr ⟨lead, rest ++ trail, before, whole⟩

/-- A rule stands in the line, but none that can be read. -/
def BadLine (line : List Char) (fault : Fault) : Prop :=
  ¬ Idle line ∧ Rule.parse (String.ofList (trim line)) = .error fault

namespace RuleTable

/-- What is left of lines when blanks are trimmed and those without a rule are dropped. -/
def said (lines : List (List Char)) : List (List Char) :=
  (lines.map trim).filter isRule

theorem said_append (first second : List (List Char)) :
    said (first ++ second) = said first ++ said second := by
  rw [said, List.map_append, List.filter_append]
  rfl

theorem said_idle {line : List Char} (idle : Idle line) (lines : List (List Char)) :
    said (line :: lines) = said lines := by
  rw [said, List.map_cons, List.filter_cons, idle_iff.mp idle]
  rfl

theorem said_rule {line : List Char} (busy : ¬ Idle line) (lines : List (List Char)) :
    said (line :: lines) = trim line :: said lines := by
  rw [idle_iff, Bool.not_eq_false] at busy
  rw [said, List.map_cons, List.filter_cons, busy]
  rfl

theorem trim_dropReturn (line : List Char) : trim (dropReturn line) = trim line := by
  unfold dropReturn
  split
  · rename_i rest ends
    have whole : line = rest.reverse ++ ['\r'] := by
      rw [← List.reverse_reverse line, ends, List.reverse_cons]
    rw [whole, trim_append_blank _ (List.forall_mem_singleton.mpr isBlank_return)]
  · rfl

/-- What the lines of a text say. -/
def saidIn (text : List Char) : List (List Char) :=
  said (pieces (· == '\n') text)

/-- Neither carriage returns nor an empty last line matter. -/
theorem parse_eq (text : String) :
    parse text = ((saidIn text.toList).map String.ofList).mapM Rule.parse := by
  have returns (ps : List (List Char)) : (ps.map dropReturn).map trim = ps.map trim := by
    rw [List.map_map]
    exact List.map_congr_left fun line _ => trim_dropReturn line
  have kept : said (lines text.toList) = saidIn text.toList := by
    rw [lines, said, returns]
    split
    · rename_i empty
      have last := List.dropLast_append_getLast? [] (beq_iff_eq.mp empty)
      have nothing : said [[]] = [] := rfl
      rw [saidIn, ← last, said_append, nothing, List.append_nil, List.dropLast_concat]
      rfl
    · rfl
  rw [parse, ruleLines, ← kept]
  rfl

theorem saidIn_append_feed (first second : List Char) :
    saidIn (first ++ '\n' :: second) = saidIn first ++ saidIn second := by
  rw [saidIn, pieces_append_separator (· == '\n') first second (beq_self_eq_true '\n'), said_append]
  rfl

theorem saidIn_cons_of_blank {c : Char} (blank : isBlank c) (text : List Char) :
    saidIn (c :: text) = saidIn text := by
  by_cases feed : c = '\n'
  · subst feed
    exact saidIn_append_feed [] text
  · -- The blank goes to the front of the first line.
    cases split : pieces (· == '\n') text with
    | nil => exact absurd split (pieces_ne_nil _ text)
    | cons first others =>
      have longer : pieces (· == '\n') (c :: text) = (c :: first) :: others := by
        simp [pieces, feed, split]
      have trimmed : trim (c :: first) = trim first :=
        trim_append_of_blank (List.forall_mem_singleton.mpr blank) first
      rw [saidIn, saidIn, longer, split, said, List.map_cons, trimmed]
      rfl

theorem saidIn_append_of_blank {lead : List Char} (blank : Blank lead) (text : List Char) :
    saidIn (lead ++ text) = saidIn text := by
  induction lead with
  | nil => rfl
  | cons c lead ih =>
    obtain ⟨first, others⟩ := List.forall_mem_cons.mp blank
    rw [List.cons_append, saidIn_cons_of_blank first, ih others]

theorem saidIn_concat_blank (text : List Char) {c : Char} (blank : isBlank c) :
    saidIn (text ++ [c]) = saidIn text := by
  by_cases feed : c = '\n'
  · subst feed
    have nothing : saidIn [] = [] := rfl
    rw [saidIn_append_feed, nothing, List.append_nil]
  · -- The blank goes to the end of the last line.
    have solid : ∀ d ∈ [c], ¬ (d == '\n') := List.forall_mem_singleton.mpr (by simpa using feed)
    obtain ⟨front, last, before, after⟩ := exists_pieces_append _ text solid
    have trimmed : said [last ++ [c]] = said [last] := by
      rw [said, List.map_singleton, trim_append_blank _ (List.forall_mem_singleton.mpr blank)]
      rfl
    rw [saidIn, saidIn, before, after, said_append, trimmed, said_append]

theorem saidIn_append_blank (text : List Char) {trail : List Char} (blank : Blank trail) :
    saidIn (text ++ trail) = saidIn text := by
  induction trail generalizing text with
  | nil => rw [List.append_nil]
  | cons c trail ih =>
    obtain ⟨first, others⟩ := List.forall_mem_cons.mp blank
    rw [List.append_cons, ih _ others, saidIn_concat_blank text first]

theorem saidIn_idle {line : List Char} (idle : Idle line) (whole : '\n' ∉ line) :
    saidIn line = [] := by
  have solid : ∀ c ∈ line, ¬ (c == '\n') := fun c inside same =>
    whole (beq_iff_eq.mp same ▸ inside)
  rw [saidIn, pieces_without_separator _ line solid, said_idle idle]
  rfl

/-- What follows is the start of a line. -/
def OpensLine (before : List Char) : Prop :=
  before = [] ∨ ∃ front, before = front ++ ['\n']

/-- What comes before is the end of a line. -/
def ClosesLine (after : List Char) : Prop :=
  after = [] ∨ ∃ back, after = '\n' :: back ∨ after = '\r' :: '\n' :: back

theorem saidIn_append_of_opensLine {before : List Char} (opens : OpensLine before)
    (text : List Char) : saidIn (before ++ text) = saidIn before ++ saidIn text := by
  obtain rfl | ⟨front, rfl⟩ := opens
  · rfl
  · rw [saidIn_concat_blank front isBlank_feed, ← saidIn_append_feed, List.append_assoc]
    rfl

theorem saidIn_append_of_closesLine (text : List Char) {after : List Char}
    (closes : ClosesLine after) : saidIn (text ++ after) = saidIn text ++ saidIn after := by
  obtain rfl | ⟨back, rfl | rfl⟩ := closes
  · rw [List.append_nil]
    exact (List.append_nil _).symm
  · rw [saidIn_append_feed, saidIn_cons_of_blank isBlank_feed]
  · rw [List.append_cons, saidIn_append_feed, saidIn_concat_blank text isBlank_return,
      saidIn_cons_of_blank isBlank_return, saidIn_cons_of_blank isBlank_feed]

/-- A line without a rule is put in, blanks are put around a line, or a line end gets a carriage
return. -/
inductive Edit : List Char → List Char → Prop
  | idle {before line after : List Char} (opens : OpensLine before) (idle : Idle line)
      (whole : '\n' ∉ line) : Edit (before ++ after) (before ++ (line ++ '\n' :: after))
  | idleLast {before line : List Char} (idle : Idle line) (whole : '\n' ∉ line) :
      Edit before (before ++ '\n' :: line)
  | padded {before lead line trail after : List Char} (opens : OpensLine before)
      (leading : Blank lead) (trailing : Blank trail) (closes : ClosesLine after) :
      Edit (before ++ (line ++ after)) (before ++ (lead ++ ((line ++ trail) ++ after)))
  | returned {before after : List Char} :
      Edit (before ++ '\n' :: after) (before ++ '\r' :: '\n' :: after)

theorem saidIn_edit {text edited : List Char} (edit : Edit text edited) :
    saidIn edited = saidIn text := by
  cases edit with
  | idle opens idle whole =>
    rw [saidIn_append_of_opensLine opens, saidIn_append_feed, saidIn_idle idle whole,
      saidIn_append_of_opensLine opens, List.nil_append]
  | idleLast idle whole => rw [saidIn_append_feed, saidIn_idle idle whole, List.append_nil]
  | padded opens leading trailing closes =>
    rw [saidIn_append_of_opensLine opens, saidIn_append_of_blank leading,
      saidIn_append_of_closesLine _ closes, saidIn_append_blank _ trailing,
      saidIn_append_of_opensLine opens, saidIn_append_of_closesLine _ closes]
  | returned =>
    rw [List.append_cons, saidIn_append_feed, saidIn_concat_blank _ isBlank_return,
      saidIn_append_feed]

/-- The edits may be made and undone, one after the other. -/
theorem parse_eq_of_edits {text edited : String}
    (edits : Relation.EqvGen Edit text.toList edited.toList) : parse edited = parse text := by
  have each : Edit ≤ Function.onFun Eq saidIn := fun _ _ edit => (saidIn_edit edit).symm
  have same := (eq_equivalence.comap saidIn).eqvGen_iff.mp (Relation.EqvGen.mono each _ _ edits)
  rw [parse_eq, parse_eq, same]

theorem parse_append_feed (first second : String) :
    parse (first ++ "\n" ++ second) = (do
      let rules ← parse first
      let others ← parse second
      return rules ++ others) := by
  have feed : (first ++ "\n" ++ second).toList = first.toList ++ '\n' :: second.toList := by
    simp
  rw [parse_eq, feed, saidIn_append_feed, List.map_append, List.mapM_append, ← parse_eq,
    ← parse_eq]

def readLines (lines : List (List Char)) : Except Fault RuleTable :=
  ((said lines).map String.ofList).mapM Rule.parse

theorem parse_of_hasLines {text : String} {lines : List (List Char)}
    (has : HasLines text.toList lines) : parse text = readLines lines := by
  rw [parse_eq, saidIn, hasLines_iff.mp has]
  rfl

theorem readLines_idle {line : List Char} (idle : Idle line) (lines : List (List Char)) :
    readLines (line :: lines) = readLines lines := by
  rw [readLines, said_idle idle]
  rfl

theorem readLines_rule {line : List Char} (busy : ¬ Idle line) (lines : List (List Char)) :
    readLines (line :: lines) = (do
      let rule ← Rule.parse (String.ofList (trim line))
      let rules ← readLines lines
      return rule :: rules) := by
  rw [readLines, said_rule busy, List.map_cons, List.mapM_cons]
  rfl

theorem readLines_bad {line : List Char} {fault : Fault} (bad : BadLine line fault)
    (lines : List (List Char)) : readLines (line :: lines) = .error fault := by
  rw [readLines_rule bad.1, bad.2]
  rfl

/-- A line that is not bad leaves the fault to later ones. -/
theorem readLines_eq_error_of_good {line : List Char} (good : ∀ fault, ¬ BadLine line fault)
    (lines : List (List Char)) (fault : Fault) :
    readLines (line :: lines) = .error fault ↔ readLines lines = .error fault := by
  by_cases idle : Idle line
  · rw [readLines_idle idle]
  · rw [readLines_rule idle]
    cases read : Rule.parse (String.ofList (trim line)) with
    | error other => exact absurd ⟨idle, read⟩ (good other)
    | ok rule =>
      cases readLines lines with
      | error other => rfl
      | ok rules => exact ⟨nofun, nofun⟩

theorem readLines_eq_error_iff {lines : List (List Char)} {fault : Fault} :
    readLines lines = .error fault ↔ ∃ before line after, lines = before ++ line :: after ∧
      (∀ l ∈ before, ∀ other, ¬ BadLine l other) ∧ BadLine line fault := by
  induction lines with
  | nil =>
    constructor
    · nofun
    · rintro ⟨before, line, after, split, -⟩
      exact absurd split (by simp)
  | cons first lines ih =>
    constructor
    · intro failed
      by_cases good : ∀ other, ¬ BadLine first other
      · rw [readLines_eq_error_of_good good, ih] at failed
        obtain ⟨before, line, after, rfl, none, bad⟩ := failed
        exact ⟨first :: before, line, after, rfl, List.forall_mem_cons.mpr ⟨good, none⟩, bad⟩
      · simp only [not_forall, not_not] at good
        obtain ⟨other, bad⟩ := good
        rw [readLines_bad bad] at failed
        cases failed
        exact ⟨[], first, lines, rfl, nofun, bad⟩
    · rintro ⟨before, line, after, split, none, bad⟩
      cases before with
      | nil =>
        cases split
        exact readLines_bad bad _
      | cons _ before =>
        cases split
        obtain ⟨good, others⟩ := List.forall_mem_cons.mp none
        rw [readLines_eq_error_of_good good, ih]
        exact ⟨before, line, after, rfl, others, bad⟩

theorem parse_eq_error_iff {text : String} {fault : Fault} :
    parse text = .error fault ↔ ∃ before line after,
      HasLines text.toList (before ++ line :: after) ∧
        (∀ l ∈ before, ∀ other, ¬ BadLine l other) ∧ BadLine line fault := by
  have has : HasLines text.toList (pieces (· == '\n') text.toList) := hasLines_iff.mpr rfl
  rw [parse_of_hasLines has, readLines_eq_error_iff]
  simp only [hasLines_iff]

end RuleTable

/-- The address and both bitmasks stand on the line, in this order, with blanks between them and
perhaps around them. -/
def Rule.ShownOn (line : List Char) (rule : Rule) : Prop :=
  ∃ lead gap gap' trail int scion, Blank lead ∧ Blank gap ∧ Blank gap' ∧ Blank trail ∧ gap ≠ [] ∧
    gap' ≠ [] ∧ BitmaskSpelledBy int rule.intBitmask ∧ BitmaskSpelledBy scion rule.scionBitmask ∧
    line = lead ++ (rule.remote.text.toList ++ (gap ++ (int ++ (gap' ++ (scion ++ trail)))))

theorem BitmaskSpelledBy.ne_nil {field : List Char} {bitmask : UInt16}
    (spelled : BitmaskSpelledBy field bitmask) : field ≠ [] := by
  obtain ⟨numeral, rfl | rfl | rfl, digits⟩ := spelled
  · exact digits.ne_nil
  · exact List.cons_ne_nil _ _
  · exact List.cons_ne_nil _ _

theorem BitmaskSpelledBy.solid {field : List Char} {bitmask : UInt16}
    (spelled : BitmaskSpelledBy field bitmask) : Solid field := by
  obtain ⟨numeral, written, digits⟩ := spelled
  have zero : ¬ isBlank '0' := by decide
  have small : ¬ isBlank 'x' := by decide
  have capital : ¬ isBlank 'X' := by decide
  rcases written with rfl | rfl | rfl
  · exact digits.solid
  · exact List.forall_mem_cons.mpr ⟨zero, List.forall_mem_cons.mpr ⟨small, digits.solid⟩⟩
  · exact List.forall_mem_cons.mpr ⟨zero, List.forall_mem_cons.mpr ⟨capital, digits.solid⟩⟩

/-- No address is taken for a remark. -/
theorem exists_text_cons {a : IsdAs} (fits : a.asn.toNat < 2 ^ 48) :
    ∃ c rest, a.text.toList = c :: rest ∧ c ≠ '#' ∧ ¬ isBlank c := by
  have spelled := IsdAs.spelledBy_text fits
  obtain ⟨isd, groups, values, written, -, domain, -⟩ := spelled
  cases isd with
  | nil => exact absurd rfl domain.ne_nil
  | cons c isd =>
    have plain : '#' ∉ c :: isd := domain.not_mem (by simp)
    refine ⟨c, _, written, ?_, domain.solid c List.mem_cons_self⟩
    rintro rfl
    exact plain List.mem_cons_self

theorem Rule.ShownOn.madeOf {line : List Char} {rule : Rule} (shown : rule.ShownOn line)
    (fits : rule.remote.asn.toNat < 2 ^ 48) :
    ∃ int scion, MadeOf [rule.remote.text.toList, int, scion] line ∧
      BitmaskSpelledBy int rule.intBitmask ∧ BitmaskSpelledBy scion rule.scionBitmask := by
  obtain ⟨lead, gap, gap', trail, int, scion, leading, blank, blank', trailing, some, some', first,
    second, rfl⟩ := shown
  have apart {gap cs : List Char} (blank : Blank gap) (some : gap ≠ []) :
      ∀ c ∈ (gap ++ cs).head?, isBlank c := by
    cases gap with
    | nil => exact absurd rfl some
    | cons d gap =>
      rintro c ⟨⟩
      exact blank d List.mem_cons_self
  obtain ⟨c, rest, written, -, -⟩ := exists_text_cons fits
  have address : rule.remote.text.toList ≠ [] := written ▸ List.cons_ne_nil c rest
  have nothing : MadeOf [] trail := .blank trailing
  have last : MadeOf [scion] (gap' ++ (scion ++ trail)) :=
    .word blank' second.ne_nil second.solid (fun c front => trailing c (List.mem_of_mem_head? front))
      nothing
  have both : MadeOf [int, scion] (gap ++ (int ++ (gap' ++ (scion ++ trail)))) :=
    .word blank first.ne_nil first.solid (apart blank' some') last
  have solid := (IsdAs.spelledBy_text fits).solid
  exact ⟨int, scion, .word leading address solid (apart blank some) both, first, second⟩

theorem Rule.ShownOn.not_idle {line : List Char} {rule : Rule} (shown : rule.ShownOn line)
    (fits : rule.remote.asn.toNat < 2 ^ 48) : ¬ Idle line := by
  obtain ⟨lead, gap, gap', trail, int, scion, leading, -, -, -, -, -, -, -, rfl⟩ := shown
  obtain ⟨c, rest, written, plain, solid⟩ := exists_text_cons fits
  obtain ⟨kept, same⟩ := exists_trim_cons solid (rest ++ (gap ++ (int ++ (gap' ++ (scion ++ trail)))))
  rw [idle_iff, written, trim_append_of_blank leading, List.cons_append, same]
  simpa [RuleTable.isRule] using plain

theorem Rule.ShownOn.parse_trim {line : List Char} {rule : Rule} (shown : rule.ShownOn line)
    (fits : rule.remote.asn.toNat < 2 ^ 48) : parse (String.ofList (trim line)) = .ok rule := by
  obtain ⟨int, scion, made, first, second⟩ := shown.madeOf fits
  have cut : fields (String.ofList (trim line)).toList = [rule.remote.text.toList, int, scion] := by
    rw [String.toList_ofList, fields_trim, fields_of_madeOf made]
  rw [parse_eq_ok_iff]
  refine ⟨rule.remote.text.toList, int, scion, [], cut, ?_, first, second⟩
  rw [String.ofList_toList]
  exact IsdAs.spelledBy_text fits

namespace RuleTable

/-- Every rule has a line of its own, and the other lines hold none. -/
inductive ShownOn : List (List Char) → RuleTable → Prop
  | nil : ShownOn [] []
  | idle {line : List Char} {lines : List (List Char)} {rules : RuleTable} (idle : Idle line)
      (others : ShownOn lines rules) : ShownOn (line :: lines) rules
  | rule {line : List Char} {lines : List (List Char)} {rule : Rule} {rules : RuleTable}
      (shown : rule.ShownOn line) (others : ShownOn lines rules) :
      ShownOn (line :: lines) (rule :: rules)

theorem readLines_of_shownOn {lines : List (List Char)} {rules : RuleTable}
    (shown : ShownOn lines rules) (fit : ∀ rule ∈ rules, rule.remote.asn.toNat < 2 ^ 48) :
    readLines lines = .ok rules := by
  induction shown with
  | nil => rfl
  | idle idle _ ih => rw [readLines_idle idle, ih fit]
  | rule shown _ ih =>
    obtain ⟨first, others⟩ := List.forall_mem_cons.mp fit
    rw [readLines_rule (shown.not_idle first), shown.parse_trim first, ih others]
    rfl

/-- A text after another adds its rules, and the first bad line is the fault of both. Blanks around
lines, idle lines and carriage returns make no difference. So a table that is written down, however
the lines are laid out, is read back. -/
theorem tables_read_line_by_line :
    (∀ a b, parse (a ++ "\n" ++ b) = (do
      let rules ← parse a
      let others ← parse b
      return rules ++ others)) ∧
    (∀ text fault, parse text = .error fault ↔ ∃ before line after,
      HasLines text.toList (before ++ line :: after) ∧
        (∀ l ∈ before, ∀ other, ¬ BadLine l other) ∧ BadLine line fault) ∧
    (∀ text edited : String, Relation.EqvGen Edit text.toList edited.toList →
      parse edited = parse text) ∧
    (∀ (text : String) lines rules, HasLines text.toList lines → ShownOn lines rules →
      (∀ rule ∈ rules, ∃ isd asn, rule.remote = .make isd asn) → parse text = .ok rules) := by
  refine ⟨parse_append_feed, fun _ _ => parse_eq_error_iff, fun _ _ => parse_eq_of_edits, ?_⟩
  intro text lines rules has shown made
  rw [parse_of_hasLines has]
  refine readLines_of_shownOn shown fun rule among => ?_
  obtain ⟨isd, asn, remote⟩ := made rule among
  rw [remote]
  exact IsdAs.asn_make_lt isd asn

/-- Lines that say one rule twice make a table of two, also under a remark. A rule that is cut short
is the fault, not the line after it. -/
theorem rule_read_twice_first_bad_line_reported :
    parse "1-ff00:0:110 8d00 1\n1-ff00:0:110 8d00 1" =
      .ok [⟨.make 1 0xff0000000110, 0x8d00, 1⟩, ⟨.make 1 0xff0000000110, 0x8d00, 1⟩] ∧
    parse "# twice\r\n1-ff00:0:110 8d00 1\n1-ff00:0:110 8d00 1" =
      parse "1-ff00:0:110 8d00 1\n1-ff00:0:110 8d00 1" ∧
    parse "1-ff00:0:110 8d00\n2" = .error (.incompleteRule "1-ff00:0:110 8d00") := by
  obtain ⟨-, faults, same, readBack⟩ := tables_read_line_by_line
  let line := "1-ff00:0:110 8d00 1".toList
  let rule : Rule := ⟨.make 1 0xff0000000110, 0x8d00, 1⟩
  have shown : rule.ShownOn line := by
    have space : Blank [' '] := List.forall_mem_singleton.mpr (by decide)
    have int : readBitmask "" "8d00".toList = .ok 0x8d00 := by decide
    have scion : readBitmask "" "1".toList = .ok 1 := by decide
    exact ⟨[], [' '], [' '], [], _, _, nofun, space, space, nofun, by decide, by decide,
      readBitmask_eq_ok_iff.mp int, readBitmask_eq_ok_iff.mp scion, by decide⟩
  have remark : Idle "# twice".toList := .inr ⟨[], " twice".toList, nofun, by decide⟩
  refine ⟨?_, ?_, ?_⟩
  · have made : ∃ isd asn, rule.remote = .make isd asn := ⟨1, 0xff0000000110, rfl⟩
    exact readBack _ [line, line] [rule, rule] ⟨by decide, by decide, by decide⟩
      (.rule shown (.rule shown .nil))
      (List.forall_mem_cons.mpr ⟨made, List.forall_mem_singleton.mpr made⟩)
  · have put := @Edit.idle [] "# twice".toList (line ++ '\n' :: line) (.inl rfl) remark (by decide)
    have ended := @Edit.returned "# twice".toList (line ++ '\n' :: line)
    exact same _ _ (.trans _ _ _ (.rel _ _ put) (.rel _ _ ended))
  · have busy : ¬ Idle "1-ff00:0:110 8d00".toList := by
      rw [idle_iff]
      decide
    exact (faults _ _).mpr ⟨[], _, ["2".toList], ⟨by decide, by decide, by decide⟩, nofun, busy,
      by decide⟩

end RuleTable

end SwitchAgent.Telemetry
