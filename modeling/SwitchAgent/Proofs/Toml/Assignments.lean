import SwitchAgent.Proofs.Toml.Literals
import SwitchAgent.Proofs.Toml.Tables

/-!
# Documents of integers

A text that gives integers to keys, one on each line, is read as the table of these keys and integers.
-/

namespace SwitchAgent.Toml

/-- A key and a literal, and the integer that the literal is of. -/
structure Assignment where
  key : String
  literal : List Char
  value : Int
  named : key.toList ≠ []
  bare : ∀ c ∈ key.toList, isBare c
  written : Literal literal value
  fits : Fits value

namespace Assignment

/-- The key and the literal on a line. -/
def line (a : Assignment) : List Char :=
  a.key.toList ++ ' ' :: '=' :: ' ' :: (a.literal ++ ['\n'])

def term (a : Assignment) : String × Term :=
  (a.key, .integer a.value)

def member (a : Assignment) : String × Value :=
  (a.key, .integer a.value)

end Assignment

/-- A text of such lines only. -/
def textOf (lines : List Assignment) : String :=
  String.ofList (lines.flatMap Assignment.line)

/-- What neither blank nor quote, bracket or comment starts with. -/
def IsSolid (c : Char) : Prop :=
  isBare c ∨ c = '+'

theorem IsSolid.not_mem {c : Char} (solid : IsSolid c) :
    c ∉ [' ', '\t', '\n', '\r', '#', '[', '\x7b', '"', '\'', '\ufeff'] := by
  have none : [' ', '\t', '\n', '\r', '#', '[', '\x7b', '"', '\'', '\ufeff'].all
      (fun e => !isBare e && e != '+') = true := by decide
  intro among
  have other := List.all_eq_true.mp none c among
  rcases solid with bare | rfl
  · simp [bare] at other
  · cases other

theorem skipSpace_of_head {c : Char} (solid : IsSolid c) (tail : List Char) :
    skipSpace (c :: tail) = c :: tail := by
  have other := solid.not_mem
  refine List.dropWhile_cons_of_neg ?_
  simp_all [isSpace]

theorem skipTrivia_of_head {c : Char} (solid : IsSolid c) (tail : List Char) :
    skipTrivia (c :: tail) = some (c :: tail) := by
  have other := solid.not_mem
  unfold skipTrivia skipLines
  rw [skipSpace_of_head solid]
  split
  · simp_all
  · simp_all
  · rfl

theorem readTerm_of_head {c : Char} (solid : IsSolid c) (tail : List Char) (fuel : Nat) :
    readTerm (fuel + 1) (c :: tail) = readPlain (c :: tail) := by
  have other := solid.not_mem
  unfold readTerm
  split
  · simp_all
  · simp_all
  · simp_all
  · simp_all
  · rfl

theorem readTerm_of_literal {cs rest : List Char} {v : Int} (literal : Literal cs v) (fits : Fits v)
    (ends : Ends rest) (fuel : Nat) :
    readTerm (fuel + 1) (cs ++ rest) = some (.integer v, rest) := by
  have read := readPlain_of_literal literal fits ends
  obtain ⟨c, tail, rfl⟩ := List.exists_cons_of_ne_nil literal.ne_nil
  exact (readTerm_of_head (literal.chars c List.mem_cons_self) _ fuel).trans read

theorem Assignment.readKey_key (a : Assignment) (fuel : Nat) (tail : List Char) :
    readKey (fuel + 1) (a.key.toList ++ ' ' :: '=' :: tail) = some ([a.key], '=' :: tail) := by
  have stops : (' ' :: '=' :: tail).span isBare = ([], ' ' :: '=' :: tail) := by
    rw [List.span_eq_takeWhile_dropWhile]
    rfl
  have part : readKeyPart (a.key.toList ++ ' ' :: '=' :: tail) =
      some (a.key, ' ' :: '=' :: tail) := by
    unfold readKeyPart
    rw [Text.span_append a.bare stops]
    split
    · rename_i same
      exact absurd (Prod.mk.inj same).1 a.named
    · rename_i same
      cases same
      rw [String.ofList_toList]
  simp only [readKey, part, Option.bind_eq_bind, Option.bind_some]
  rfl

theorem Assignment.readAssignment_line (a : Assignment) (rest : List Char) :
    readAssignment (a.line ++ rest) = some ([a.key], a.literal ++ '\n' :: rest) := by
  have shape : a.line ++ rest =
      a.key.toList ++ ' ' :: '=' :: ' ' :: (a.literal ++ '\n' :: rest) := by
    simp [line]
  have start : skipSpace (' ' :: (a.literal ++ '\n' :: rest)) = a.literal ++ '\n' :: rest := by
    obtain ⟨c, tail, written⟩ := List.exists_cons_of_ne_nil a.written.ne_nil
    have solid : IsSolid c := a.written.chars c (written ▸ List.mem_cons_self)
    rw [written]
    exact skipSpace_of_head solid _
  rw [shape]
  refine Option.bind_eq_some_iff.mpr ⟨_, a.readKey_key _ _, ?_⟩
  exact congrArg (fun rest => some ([a.key], rest)) start

/-- A line takes its key and integer to the members read so far. -/
theorem Assignment.readLines_line (a : Assignment) (fuel : Nat) (sections : Sections)
    (header : List String × Bool) (members : Members) (rest : List Char) :
    readLines (fuel + 2) sections header members (a.line ++ rest) =
      readLines (fuel + 1) sections header (members ++ [a.term]) rest := by
  have assignment := a.readAssignment_line rest
  have ends : Ends ('\n' :: rest) := by
    rintro c ⟨⟩
    decide
  have term := readTerm_of_literal a.written a.fits ends fuel
  have insert : Members.insert [a.key] (.integer a.value) members = some (members ++ [a.term]) := by
    rw [Members.insert, Assignment.term]
  obtain ⟨c, tail, key⟩ := List.exists_cons_of_ne_nil a.named
  have solid : IsSolid c := .inl (a.bare c (key ▸ List.mem_cons_self))
  obtain ⟨tail', shape⟩ : ∃ tail', a.line ++ rest = c :: tail' := by
    exact ⟨_, by rw [line, key]; rfl⟩
  rw [shape] at assignment ⊢
  rw [readLines, skipTrivia_of_head solid]
  simp only [Option.bind_eq_bind, Option.bind_some]
  split
  · rename_i same
    cases same
  · rename_i same
    obtain ⟨rfl, -⟩ := List.cons.inj same
    exact absurd solid.not_mem (by decide)
  · rw [assignment]
    simp only [Option.bind_some, term, insert, lineEnd]
    rfl

theorem readLines_lines (lines : List Assignment) (fuel : Nat) (sections : Sections)
    (header : List String × Bool) (members : Members) (rest : List Char) :
    readLines (lines.length + fuel + 1) sections header members
        (lines.flatMap Assignment.line ++ rest) =
      readLines (fuel + 1) sections header (members ++ lines.map Assignment.term) rest := by
  induction lines generalizing members with
  | nil => simp
  | cons a lines ih =>
    have more : (a :: lines).length + fuel + 1 = lines.length + fuel + 2 := by
      simp only [List.length_cons]
      omega
    rw [more, List.flatMap_cons, List.append_assoc, a.readLines_line, ih, List.map_cons,
      List.append_assoc, List.singleton_append]

theorem Assignment.mem_line (a : Assignment) : ∀ c ∈ a.line, IsSolid c ∨ c ∈ [' ', '=', '\n'] := by
  intro c among
  rcases List.mem_append.mp among with key | rest
  · exact .inl (.inl (a.bare c key))
  · have parts : c ∈ [' ', '=', ' '] ++ a.literal ++ ['\n'] := rest
    rcases List.mem_append.mp parts with front | last
    · rcases List.mem_append.mp front with equals | literal
      · right
        simp only [List.mem_cons, List.not_mem_nil, or_false] at equals
        rcases equals with rfl | rfl | rfl <;> decide
      · exact .inl (a.written.chars c literal)
    · exact .inr (List.mem_append_right [' ', '='] last)

theorem joinLineEnds_append {front : List Char} (none : '\r' ∉ front) (rest : List Char) :
    joinLineEnds (front ++ rest) = front ++ joinLineEnds rest := by
  induction front with
  | nil => rfl
  | cons c front ih =>
    obtain ⟨other, none⟩ := List.ne_and_not_mem_of_not_mem_cons none
    rw [List.cons_append, List.cons_append, ← ih none]
    conv_lhs => unfold joinLineEnds
    split
    · simp_all
    · simp_all
    · simp_all

theorem dropMark_of_head {cs : List Char} (other : cs.head? ≠ some '\ufeff') : dropMark cs = cs := by
  unfold dropMark
  split
  · exact absurd rfl other
  · rfl

theorem length_le_flatMap_line (lines : List Assignment) :
    lines.length ≤ (lines.flatMap Assignment.line).length := by
  induction lines with
  | nil => exact Nat.le_refl 0
  | cons a lines ih =>
    have some : 0 < a.line.length := by
      rw [Assignment.line, List.length_append]
      exact Nat.add_pos_right _ (Nat.succ_pos _)
    rw [List.flatMap_cons, List.length_append, List.length_cons]
    omega

theorem mem_flatMap_line (lines : List Assignment) :
    ∀ c ∈ lines.flatMap Assignment.line, IsSolid c ∨ c ∈ [' ', '=', '\n'] := by
  intro c among
  obtain ⟨a, -, inside⟩ := List.mem_flatMap.mp among
  exact a.mem_line c inside

/-- The lines are read first, whatever follows them. -/
theorem readSections_of_lines {lines : List Assignment} {text : String} {rest : List Char}
    (shape : text.toList = lines.flatMap Assignment.line ++ rest)
    (head : text.toList.head? ≠ some '\ufeff') :
    ∃ fuel, readSections text =
      readLines (fuel + 2) [] ([], false) (lines.map Assignment.term) (joinLineEnds rest) := by
  have carriage : '\r' ∉ lines.flatMap Assignment.line := by
    intro among
    exact absurd (mem_flatMap_line lines _ among) (by unfold IsSolid; decide)
  have long := length_le_flatMap_line lines
  obtain ⟨extra, size⟩ := Nat.exists_eq_add_of_le (le_trans long (Nat.le_add_right _ (joinLineEnds rest).length))
  have fuel : (lines.flatMap Assignment.line ++ joinLineEnds rest).length + 2 =
      lines.length + (extra + 1) + 1 := by
    rw [List.length_append]
    omega
  refine ⟨extra, ?_⟩
  rw [readSections, dropMark_of_head head, shape, joinLineEnds_append carriage, fuel,
    readLines_lines, List.nil_append]

theorem readSections_textOf (lines : List Assignment) :
    readSections (textOf lines) =
      some (close [] ([], false) (lines.map Assignment.term)) := by
  have shape : (textOf lines).toList = lines.flatMap Assignment.line ++ [] := by
    rw [textOf, String.toList_ofList, List.append_nil]
  have head : (textOf lines).toList.head? ≠ some '\ufeff' := by
    intro same
    rw [shape, List.append_nil] at same
    exact absurd (mem_flatMap_line lines _ (List.mem_of_mem_head? same)) (by unfold IsSolid; decide)
  obtain ⟨fuel, read⟩ := readSections_of_lines shape head
  rw [read]
  rfl

theorem Assignment.key_ne_dateKey (a : Assignment) : a.key ≠ dateKey := by
  intro same
  have bare := a.bare '$' (by rw [same]; decide)
  exact absurd bare (by decide)

theorem gatherTable_terms (lines : List Assignment) (more : Members) (fuel : Nat) (site : Site)
    (table : List (String × Value)) (sections : Sections)
    (apart : (table.map Prod.fst ++ lines.map Assignment.key).Nodup) :
    gatherTable (lines.length + fuel) site (lines.map Assignment.term ++ more) table sections =
      gatherTable fuel site more (table ++ lines.map Assignment.member) sections := by
  induction lines generalizing table with
  | nil => simp
  | cons a lines ih =>
    have fresh : a.key ∉ table.map Prod.fst := by
      intro among
      exact List.disjoint_of_nodup_append apart among List.mem_cons_self
    have apart' : ((table ++ [a.member]).map Prod.fst ++ lines.map Assignment.key).Nodup := by
      simpa [Assignment.member] using apart
    have plain : (table.isEmpty && a.key == dateKey) = false := by
      rw [beq_false_of_ne a.key_ne_dateKey, Bool.and_false]
    have steps : (a :: lines).length + fuel = lines.length + fuel + 1 := by
      simp only [List.length_cons]
      omega
    have added : addMember table a.key (.integer a.value) = some (table ++ [a.member]) :=
      addMember_eq_some_iff.mpr ⟨fresh, rfl⟩
    have rest := ih (table ++ [a.member]) apart'
    rw [List.append_assoc, List.singleton_append] at rest
    rw [steps, List.map_cons, List.map_cons, List.cons_append, ← rest, Assignment.term, gatherTable,
      plain]
    simp only [Term.toValue?, Option.bind_eq_bind, Option.bind_some, added]
    rfl

/-- The first section of a document is gathered first. -/
theorem gatherTable_enter (fuel : Nat) (members : Members) (rest : Sections) :
    gatherTable (fuel + 1) ⟨0, 0, 0, rest.length + 1⟩ [] [] (⟨[], false, some members⟩ :: rest) =
      gatherTable fuel ⟨0, 0, 0, rest.length + 1⟩ members [] (⟨[], false, none⟩ :: rest) := by
  rw [gatherTable]
  rfl

/-- If there is no section but the first, it is gathered and nothing else. -/
theorem gatherTable_root {lines : List Assignment} (apart : (lines.map Assignment.key).Nodup)
    (fuel : Nat) :
    gatherTable (lines.length + (fuel + 1) + 1) ⟨0, 0, 0, 1⟩ [] []
        [⟨[], false, some (lines.map Assignment.term)⟩] =
      some (.table (lines.map Assignment.member), [⟨[], false, none⟩]) := by
  have gathered := gatherTable_terms lines [] (fuel + 1) ⟨0, 0, 0, 1⟩ [] [⟨[], false, none⟩] apart
  rw [List.append_nil, List.nil_append] at gathered
  refine (gatherTable_enter _ _ []).trans (gathered.trans ?_)
  rw [gatherTable]
  rfl

/-- There is a step for the section, one for each line and one for the end. -/
theorem exists_steps {count size : Nat} (long : count ≤ size) :
    ∃ extra, 6 * ((size + 2) * (size + 2)) = count + (extra + 1) + 1 := by
  have square := Nat.le_mul_self (size + 2)
  obtain ⟨extra, steps⟩ := Nat.exists_eq_add_of_le (le_trans (Nat.add_le_add_right long 2) square)
  exact ⟨extra + 5 * ((size + 2) * (size + 2)), by omega⟩

theorem read_textOf {lines : List Assignment} (apart : (lines.map Assignment.key).Nodup) :
    Toml.read (textOf lines) = some (.table (lines.map Assignment.member)) := by
  have long : lines.length ≤ (textOf lines).length := by
    rw [textOf, String.length_ofList]
    exact length_le_flatMap_line lines
  obtain ⟨extra, steps⟩ := exists_steps long
  refine Option.bind_eq_some_iff.mpr ⟨_, readSections_textOf lines, ?_⟩
  dsimp only
  rw [steps]
  cases lines with
  | nil =>
    simp only [close, List.map_nil, List.isEmpty_nil, Bool.and_self, if_true, gatherTable]
    rfl
  | cons a lines =>
    have root := gatherTable_root apart extra
    exact Option.bind_eq_some_iff.mpr ⟨_, root, rfl⟩

end SwitchAgent.Toml
