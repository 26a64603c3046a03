import SwitchAgent.Proofs.Toml.Assignments

/-!
# Documents that start with integers

However a text goes on after lines that give integers to keys: if it is a document at all, these keys
and integers are the first members of its table.
-/

namespace SwitchAgent.Toml

variable {lines : List Assignment}

theorem put_terms {key : String} {t : Term} {sub : List (String × Term)} {more : Members}
    (found : (lines.map Assignment.term ++ more).lookup key = some (.dotted sub)) :
    Members.put key t (lines.map Assignment.term ++ more) =
      lines.map Assignment.term ++ Members.put key t more := by
  induction lines with
  | nil => rfl
  | cons a lines ih =>
    rw [List.map_cons, List.cons_append, Assignment.term] at found ⊢
    by_cases own : key = a.key
    · subst own
      rw [List.lookup_cons_self] at found
      cases found
    · rw [List.lookup_cons, beq_false_of_ne own] at found
      rw [Members.put, if_neg fun same => own same.symm, ih found]
      rfl

/-- Whatever is inserted leaves the integers at the front alone. -/
theorem insert_terms {path : List String} {t : Term} {more members : Members}
    (inserted : Members.insert path t (lines.map Assignment.term ++ more) = some members) :
    ∃ more', members = lines.map Assignment.term ++ more' := by
  unfold Members.insert at inserted
  split at inserted
  · cases inserted
  · cases inserted
    exact ⟨_, List.append_assoc _ _ _⟩
  · split at inserted
    · obtain ⟨sub, -, rfl⟩ := Option.map_eq_some_iff.mp inserted
      exact ⟨_, List.append_assoc _ _ _⟩
    · rename_i found
      obtain ⟨sub, -, rfl⟩ := Option.map_eq_some_iff.mp inserted
      exact ⟨_, put_terms found⟩
    · cases inserted

/-- The first section has no header and starts with the integers. -/
def Leads (lines : List Assignment) (sections : Sections) : Prop :=
  ∃ more rest, sections = ⟨[], false, some (lines.map Assignment.term ++ more)⟩ :: rest

theorem Leads.append {sections : Sections} (leads : Leads lines sections) (later : Sections) :
    Leads lines (sections ++ later) := by
  obtain ⟨more, rest, rfl⟩ := leads
  exact ⟨more, rest ++ later, rfl⟩

/-- Closing a section leaves the sections before it alone. -/
theorem close_eq (sections : Sections) (header : List String × Bool) (members : Members) :
    ∃ later, close sections header members = sections ++ later := by
  unfold close
  split
  · exact ⟨[], (List.append_nil sections).symm⟩
  · exact ⟨_, rfl⟩

theorem leads_close {sections : Sections} (leads : Leads lines sections)
    (header : List String × Bool) (members : Members) :
    Leads lines (close sections header members) := by
  obtain ⟨later, same⟩ := close_eq sections header members
  rw [same]
  exact leads.append later

theorem leads_of_close_cons {s : Section} {sections : Sections} {header : List String × Bool}
    {members : Members} (leads : Leads lines (close (s :: sections) header members)) :
    Leads lines (s :: sections) := by
  obtain ⟨later, same⟩ := close_eq (s :: sections) header members
  obtain ⟨more, rest, shape⟩ := leads
  obtain ⟨rfl, -⟩ := List.cons.inj (same.symm.trans shape)
  exact ⟨more, sections, rfl⟩

/-- The section that is being read is the first one if there is none before it. -/
theorem leads_close_nil_iff (begun : lines ≠ []) {header : List String × Bool} {members : Members} :
    Leads lines (close [] header members) ↔
      header = ([], false) ∧ ∃ more, members = lines.map Assignment.term ++ more := by
  obtain ⟨path, listed⟩ := header
  constructor
  · rintro ⟨more, rest, shape⟩
    unfold close at shape
    split at shape
    · cases shape
    · cases shape
      exact ⟨rfl, more, rfl⟩
  · rintro ⟨⟨⟩, more, rfl⟩
    have some : (lines.map Assignment.term ++ more).isEmpty = false := by
      cases lines with
      | nil => exact absurd rfl begun
      | cons a lines => rfl
    refine ⟨more, [], ?_⟩
    rw [close, some]
    rfl

theorem leads_close_insert (begun : lines ≠ []) {sections : Sections} {header : List String × Bool}
    {members members' : Members} {path : List String} {t : Term}
    (leads : Leads lines (close sections header members))
    (inserted : members.insert path t = some members') :
    Leads lines (close sections header members') := by
  cases sections with
  | nil =>
    obtain ⟨root, more, rfl⟩ := (leads_close_nil_iff begun).mp leads
    exact (leads_close_nil_iff begun).mpr ⟨root, insert_terms inserted⟩
  | cons s sections => exact leads_close (leads_of_close_cons leads) header members'

/-- What a step of reading comes to: the end, another header, or a member more. -/
theorem readLines_step {fuel : Nat} {sections out : Sections} {header : List String × Bool}
    {members : Members} {cs : List Char}
    (read : readLines (fuel + 1) sections header members cs = some out) :
    out = close sections header members ∨
    (∃ header' rest, readLines fuel (close sections header members) header' [] rest = some out) ∨
    ∃ path t members' rest, members.insert path t = some members' ∧
      readLines fuel sections header members' rest = some out := by
  rw [readLines] at read
  obtain ⟨line, -, read⟩ := Option.bind_eq_some_iff.mp read
  split at read
  · cases read
    exact .inl rfl
  · obtain ⟨⟨header', rest⟩, -, later⟩ := Option.bind_eq_some_iff.mp read
    exact .inr (.inl ⟨header', rest, later⟩)
  · obtain ⟨⟨path, rest⟩, -, read⟩ := Option.bind_eq_some_iff.mp read
    obtain ⟨⟨t, rest⟩, -, read⟩ := Option.bind_eq_some_iff.mp read
    obtain ⟨members', inserted, read⟩ := Option.bind_eq_some_iff.mp read
    obtain ⟨rest, -, later⟩ := Option.bind_eq_some_iff.mp read
    exact .inr (.inr ⟨path, t, members', rest, inserted, later⟩)

/-- The integers lead as soon as they have been read, and lead to the end. -/
theorem leads_readLines (begun : lines ≠ []) {fuel : Nat} {sections out : Sections}
    {header : List String × Bool} {members : Members} {cs : List Char}
    (leads : Leads lines (close sections header members))
    (read : readLines fuel sections header members cs = some out) : Leads lines out := by
  induction fuel generalizing sections header members cs with
  | zero => cases read
  | succ fuel ih =>
    rcases readLines_step read with rfl | ⟨header', rest, later⟩ |
      ⟨path, t, members', rest, inserted, later⟩
    · exact leads
    · exact ih (leads_close leads header' []) later
    · exact ih (leads_close_insert begun leads inserted) later

theorem leads_readSections (begun : lines ≠ []) {text : String} {sections : Sections}
    (starts : lines.flatMap Assignment.line <+: text.toList)
    (read : readSections text = some sections) : Leads lines sections := by
  obtain ⟨rest, shape⟩ := starts
  have head : text.toList.head? ≠ some '\ufeff' := by
    obtain ⟨a, others, rfl⟩ := List.exists_cons_of_ne_nil begun
    obtain ⟨c, tail, key⟩ := List.exists_cons_of_ne_nil a.named
    have bare := a.bare c (key ▸ List.mem_cons_self)
    rw [← shape, List.flatMap_cons, Assignment.line, key]
    intro same
    cases same
    exact absurd bare (by decide)
  obtain ⟨fuel, lined⟩ := readSections_of_lines shape.symm head
  have leads : Leads lines (close [] ([], false) (lines.map Assignment.term)) :=
    (leads_close_nil_iff begun).mpr ⟨rfl, [], (List.append_nil _).symm⟩
  exact leads_readLines begun leads (lined.symm.trans read)

/-- The integers are the first members of what is read. -/
theorem read_of_lines (apart : (lines.map Assignment.key).Nodup) (begun : lines ≠ [])
    {text : String} {v : Value} (starts : lines.flatMap Assignment.line <+: text.toList)
    (read : Toml.read text = some v) : ∃ more, v = .table (lines.map Assignment.member ++ more) := by
  obtain ⟨sections, cut, read⟩ := Option.bind_eq_some_iff.mp read
  obtain ⟨more, rest, rfl⟩ := leads_readSections begun starts cut
  obtain ⟨⟨v', left⟩, gathered, same⟩ := Option.bind_eq_some_iff.mp read
  cases same
  have long : lines.length ≤ text.length :=
    le_trans (length_le_flatMap_line lines) starts.length_le
  obtain ⟨extra, steps⟩ := exists_steps long
  rw [steps, List.length_cons, gatherTable_enter, gatherTable_terms lines _ _ _ [] _ apart] at gathered
  refine extends_gatherTable ?_ gathered
  simpa using begun

end SwitchAgent.Toml
