import SwitchAgent.Json.Form
import SwitchAgent.Proofs.Json.Documents

/-!
# Values that were read

A reader keeps the last of repeated names and takes integers of 64 bits only. So what it has read
can be written and read again, unless there is a decimal in it.
-/

namespace SwitchAgent.Json

mutual

/-- There is no decimal in the value. -/
def Value.Integral : Value → Prop
  | .decimal _ => False
  | .array items => Value.AllIntegral items
  | .object members => Value.MembersIntegral members
  | _ => True
termination_by structural v => v

def Value.AllIntegral : List Value → Prop
  | [] => True
  | v :: vs => v.Integral ∧ Value.AllIntegral vs
termination_by structural vs => vs

def Value.MembersIntegral : List (String × Value) → Prop
  | [] => True
  | (_, v) :: rest => v.Integral ∧ Value.MembersIntegral rest
termination_by structural ms => ms

end

namespace Value

theorem allIntegral_iff (vs : List Value) : AllIntegral vs ↔ ∀ v ∈ vs, v.Integral := by
  induction vs with
  | nil => simp [AllIntegral]
  | cons v vs ih => simp [AllIntegral, ih]

theorem allExact_iff (vs : List Value) : AllExact vs ↔ ∀ v ∈ vs, v.Exact := by
  induction vs with
  | nil => simp [AllExact]
  | cons v vs ih => simp [AllExact, ih]

theorem membersIntegral_iff (ms : List (String × Value)) :
    MembersIntegral ms ↔ ∀ m ∈ ms, m.2.Integral := by
  induction ms with
  | nil => simp [MembersIntegral]
  | cons m ms ih => simp [MembersIntegral, ih]

theorem membersExact_iff (ms : List (String × Value)) :
    MembersExact ms ↔ ∀ m ∈ ms, m.2.Exact := by
  induction ms with
  | nil => simp [MembersExact]
  | cons m ms ih => simp [MembersExact, ih]

/-- Only a decimal keeps the value from being exact. -/
def Regular (v : Value) : Prop :=
  v.Integral → v.Exact

end Value

theorem mem_putMember {members : List (String × Value)} {name : String} {v : Value}
    {m : String × Value} (among : m ∈ putMember members name v) : m = (name, v) ∨ m ∈ members := by
  induction members with
  | nil => exact Or.inl (List.mem_singleton.mp among)
  | cons first rest ih =>
    obtain ⟨n, w⟩ := first
    rw [putMember] at among
    by_cases same : n = name
    · rw [if_pos same] at among
      rcases List.mem_cons.mp among with here | later
      · exact Or.inl here
      · exact Or.inr (List.mem_cons_of_mem _ later)
    · rw [if_neg same] at among
      rcases List.mem_cons.mp among with here | later
      · exact Or.inr (here ▸ List.mem_cons_self)
      · rcases ih later with put | old
        · exact Or.inl put
        · exact Or.inr (List.mem_cons_of_mem _ old)

theorem mem_names_putMember {members : List (String × Value)} {name other : String} {v : Value}
    (among : other ∈ (putMember members name v).map Prod.fst) :
    other = name ∨ other ∈ members.map Prod.fst := by
  obtain ⟨m, put, rfl⟩ := List.mem_map.mp among
  rcases mem_putMember put with rfl | old
  · exact Or.inl rfl
  · exact Or.inr (List.mem_map.mpr ⟨m, old, rfl⟩)

theorem nodup_putMember {members : List (String × Value)} (name : String) (v : Value)
    (distinct : (members.map Prod.fst).Nodup) :
    ((putMember members name v).map Prod.fst).Nodup := by
  induction members with
  | nil => simp [putMember]
  | cons first rest ih =>
    obtain ⟨n, w⟩ := first
    rw [List.map_cons, List.nodup_cons] at distinct
    rw [putMember]
    by_cases same : n = name
    · rw [if_pos same, List.map_cons, List.nodup_cons]
      exact ⟨same ▸ distinct.1, distinct.2⟩
    · rw [if_neg same, List.map_cons, List.nodup_cons]
      refine ⟨fun again => ?_, ih distinct.2⟩
      rcases mem_names_putMember again with here | old
      · exact same here
      · exact distinct.1 old

theorem Numeral.range_of_integer? {n : Numeral} {i : Int} (read : n.integer? = some i) :
    -2 ^ 63 ≤ i ∧ i < 2 ^ 64 := by
  rw [Numeral.integer?] at read
  split at read
  · cases read
  · split at read
    · split at read
      · cases read
        omega
      · cases read
    · split at read
      · next fits =>
        rw [UInt64.size] at fits
        cases read
        omega
      · cases read

theorem Numeral.regular_of_toValue? {n : Numeral} {v : Value} (read : n.toValue? = some v) :
    v.Regular := by
  intro integral
  rw [Numeral.toValue?] at read
  split at read
  · next i whole =>
    cases read
    exact Numeral.range_of_integer? whole
  · split at read
    · cases read
      exact absurd integral id
    · cases read

/-- Members that a reader has put so far. -/
structure Gathered (members : List (String × Value)) : Prop where
  distinct : (members.map Prod.fst).Nodup
  regular : ∀ m ∈ members, m.2.Regular

theorem Gathered.put {members : List (String × Value)} (gathered : Gathered members)
    (name : String) {v : Value} (regular : v.Regular) : Gathered (putMember members name v) where
  distinct := nodup_putMember name v gathered.distinct
  regular m among := by
    rcases mem_putMember among with rfl | old
    · exact regular
    · exact gathered.regular m old

mutual

theorem Document.regular_of_toValue? (d : Document) (depth : Nat) (v : Value)
    (read : d.toValue? depth = some v) : v.Regular := by
  cases d with
  | null => cases read; exact fun _ => trivial
  | bool b => cases read; exact fun _ => trivial
  | number n => exact Numeral.regular_of_toValue? read
  | string l =>
    obtain ⟨s, -, rfl⟩ := Option.map_eq_some_iff.mp read
    exact fun _ => trivial
  | array items =>
    cases depth with
    | zero => cases read
    | succ depth =>
      obtain ⟨vs, items, rfl⟩ := Option.map_eq_some_iff.mp read
      have regular := Document.regular_of_toValues? _ depth vs items
      intro integral
      rw [Value.Exact, Value.allExact_iff]
      intro v among
      exact regular v among ((Value.allIntegral_iff vs).mp integral v among)
  | object members =>
    cases depth with
    | zero => cases read
    | succ depth =>
      obtain ⟨ms, members, rfl⟩ := Option.map_eq_some_iff.mp read
      have gathered := Document.gathered_of_toMembers? _ depth [] ms members ⟨by simp, by simp⟩
      intro integral
      refine ⟨gathered.distinct, (Value.membersExact_iff ms).mpr fun m among => ?_⟩
      exact gathered.regular m among ((Value.membersIntegral_iff ms).mp integral m among)
termination_by structural d

theorem Document.regular_of_toValues? (ds : List Document) (depth : Nat) (vs : List Value)
    (read : Document.toValues? ds depth = some vs) : ∀ v ∈ vs, v.Regular := by
  cases ds with
  | nil => cases read; simp
  | cons d ds =>
    obtain ⟨v, first, read⟩ := Option.bind_eq_some_iff.mp read
    obtain ⟨rest, others, same⟩ := Option.bind_eq_some_iff.mp read
    cases same
    have here := Document.regular_of_toValue? d depth v first
    have later := Document.regular_of_toValues? ds depth rest others
    exact List.forall_mem_cons.mpr ⟨here, later⟩
termination_by structural ds

theorem Document.gathered_of_toMembers? (ms : List (Literal × Document)) (depth : Nat)
    (seen all : List (String × Value)) (read : Document.toMembers? ms depth seen = some all)
    (gathered : Gathered seen) : Gathered all := by
  cases ms with
  | nil => cases read; exact gathered
  | cons m ms =>
    obtain ⟨key, d⟩ := m
    obtain ⟨name, -, read⟩ := Option.bind_eq_some_iff.mp read
    obtain ⟨v, first, others⟩ := Option.bind_eq_some_iff.mp read
    have regular := Document.regular_of_toValue? d depth v first
    exact Document.gathered_of_toMembers? ms depth _ all others (gathered.put name regular)
termination_by structural ms

end

/-- What is read as a free-form value is exact, unless there is a decimal in it. -/
theorem exact_of_read {text : String} {v : Value} (read : Json.read text = some v)
    (integral : v.Integral) : v.Exact := by
  obtain ⟨d, -, value⟩ := Option.bind_eq_some_iff.mp read
  exact Document.regular_of_toValue? d _ v value integral

end SwitchAgent.Json
