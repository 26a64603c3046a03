import Mathlib.Data.List.Nodup
import SwitchAgent.Toml.Reader

/-!
# Tables of a document

However the sections of a document are spread, the table that is gathered from them has every name
once: a member that would give a name again spoils the document.
-/

namespace SwitchAgent.Toml

/-- The members of a document. One that is read as a date has none. -/
def Value.topLevel : Value → List (String × Value)
  | .table members => members
  | _ => []

/-- No name is given twice. -/
def Value.Distinct (v : Value) : Prop :=
  (v.topLevel.map Prod.fst).Nodup

/-- A member comes after the others, and only under a name that none of them has. -/
theorem addMember_eq_some_iff {table table' : List (String × Value)} {key : String} {v : Value} :
    addMember table key v = some table' ↔
      key ∉ table.map Prod.fst ∧ table' = table ++ [(key, v)] := by
  have given : table.any (·.1 == key) = true ↔ key ∈ table.map Prod.fst := by
    simp [List.any_eq_true, List.mem_map]
  unfold addMember
  by_cases among : key ∈ table.map Prod.fst
  · rw [if_pos (given.mpr among)]
    constructor
    · intro added
      cases added
    · rintro ⟨fresh, -⟩
      exact absurd among fresh
  · rw [if_neg (mt given.mp among), Option.some.injEq]
    constructor
    · rintro rfl
      exact ⟨among, rfl⟩
    · rintro ⟨-, rfl⟩
      rfl

theorem nodup_addMember {table table' : List (String × Value)} {key : String} {v : Value}
    (apart : (table.map Prod.fst).Nodup) (added : addMember table key v = some table') :
    (table'.map Prod.fst).Nodup := by
  obtain ⟨fresh, rfl⟩ := addMember_eq_some_iff.mp added
  rw [List.map_append, List.map_singleton, List.nodup_append]
  refine ⟨apart, List.nodup_singleton key, ?_⟩
  intro name among other here same
  rw [same, List.mem_singleton.mp here] at among
  exact fresh among

theorem distinct_date {t : Term} {v : Value} (read : t.date? = some v) : v.Distinct := by
  cases t <;> simp only [Term.date?, reduceCtorEq] at read
  split at read
  · cases read
    exact List.nodup_nil
  · cases read

/-- What a step of gathering comes to: the table as it is, a date in place of an empty table, or a
further step with the table as it is or with one member more. -/
theorem gatherTable_step {fuel : Nat} {site : Site} {members : Members}
    {table : List (String × Value)} {sections rest : Sections} {v : Value}
    (gathered : gatherTable (fuel + 1) site members table sections = some (v, rest)) :
    v = .table table ∨ (table = [] ∧ ∃ t : Term, t.date? = some v) ∨
    ∃ site' members' table' sections',
      (table' = table ∨ ∃ key member, addMember table key member = some table') ∧
      gatherTable fuel site' members' table' sections' = some (v, rest) := by
  cases members with
  | cons member members =>
    obtain ⟨key, t⟩ := member
    simp only [gatherTable] at gathered
    split at gathered
    · rename_i first
      obtain ⟨date, read, same⟩ := Option.map_eq_some_iff.mp gathered
      cases same
      have empty : table = [] := by simp_all
      exact .inr (.inl ⟨empty, t, read⟩)
    · obtain ⟨v', -, gathered⟩ := Option.bind_eq_some_iff.mp gathered
      obtain ⟨table', added, gathered⟩ := Option.bind_eq_some_iff.mp gathered
      exact .inr (.inr ⟨_, _, _, _, .inr ⟨_, _, added⟩, gathered⟩)
  | nil =>
    simp only [gatherTable] at gathered
    split at gathered
    · cases gathered
      exact .inl rfl
    · split at gathered
      · cases gathered
      · split at gathered
        · split at gathered
          · cases gathered
          · exact .inr (.inr ⟨_, _, _, _, .inl rfl, gathered⟩)
        · split at gathered
          · cases gathered
          · -- The member is a list or a table, and it does not matter here which.
            split at gathered <;>
              obtain ⟨found, -, gathered⟩ := Option.bind_eq_some_iff.mp gathered <;>
              obtain ⟨table', added, gathered⟩ := Option.bind_eq_some_iff.mp gathered <;>
              exact .inr (.inr ⟨_, _, _, _, .inr ⟨_, _, added⟩, gathered⟩)

/-- What is gathered has distinct names if what was gathered before has. -/
theorem distinct_gatherTable {fuel : Nat} {site : Site} {members : Members}
    {table : List (String × Value)} {sections rest : Sections} {v : Value}
    (apart : (table.map Prod.fst).Nodup)
    (gathered : gatherTable fuel site members table sections = some (v, rest)) : v.Distinct := by
  induction fuel generalizing site members table sections with
  | zero => cases gathered
  | succ fuel ih =>
    rcases gatherTable_step gathered with rfl | ⟨-, t, read⟩ | ⟨_, _, table', _, more, later⟩
    · exact apart
    · exact distinct_date read
    · rcases more with rfl | ⟨key, member, added⟩
      · exact ih apart later
      · exact ih (nodup_addMember apart added) later

/-- Once a table has members, gathering adds others after them. -/
theorem extends_gatherTable {fuel : Nat} {site : Site} {members : Members}
    {table : List (String × Value)} {sections rest : Sections} {v : Value} (begun : table ≠ [])
    (gathered : gatherTable fuel site members table sections = some (v, rest)) :
    ∃ more, v = .table (table ++ more) := by
  induction fuel generalizing site members table sections with
  | zero => cases gathered
  | succ fuel ih =>
    rcases gatherTable_step gathered with rfl | ⟨empty, -⟩ | ⟨_, _, table', _, more, later⟩
    · exact ⟨[], by rw [List.append_nil]⟩
    · exact absurd empty begun
    · rcases more with rfl | ⟨key, member, added⟩
      · exact ih begun later
      · obtain ⟨-, rfl⟩ := addMember_eq_some_iff.mp added
        obtain ⟨more, rfl⟩ := ih (List.append_ne_nil_of_left_ne_nil begun _) later
        exact ⟨(key, member) :: more, by rw [List.append_assoc, List.singleton_append]⟩

theorem distinct_read {text : String} {v : Value} (read : Toml.read text = some v) :
    v.Distinct := by
  obtain ⟨sections, -, gathered⟩ := Option.bind_eq_some_iff.mp read
  obtain ⟨⟨v', rest⟩, gathered, same⟩ := Option.bind_eq_some_iff.mp gathered
  cases same
  have nothing : (([] : List (String × Value)).map Prod.fst).Nodup := List.nodup_nil
  exact distinct_gatherTable nothing gathered

end SwitchAgent.Toml
