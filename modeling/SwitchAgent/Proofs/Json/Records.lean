import SwitchAgent.Json.Form

/-!
# Records and what they are read from

An object gives a field of a record if one member of that name stands in it, and only one. Members
of other names are passed over. An array gives the fields by their places.
-/

namespace SwitchAgent.Json

/-- What stands in an object under a name, in order. -/
def valuesOf (name : String) (members : List (Literal × Document)) : List Document :=
  (members.filter fun m => m.1.text? = some name).map Prod.snd

theorem valuesOf_cons_same {key : Literal} {name : String} (named : key.text? = some name)
    (d : Document) (rest : List (Literal × Document)) :
    valuesOf name ((key, d) :: rest) = d :: valuesOf name rest := by
  simp [valuesOf, named]

theorem valuesOf_cons_other {key : Literal} {name other : String} (named : key.text? = some other)
    (different : other ≠ name) (d : Document) (rest : List (Literal × Document)) :
    valuesOf name ((key, d) :: rest) = valuesOf name rest := by
  simp [valuesOf, named, different]

/-- Every key is a text, and what has a foreign name may be passed over. -/
def Legible (names : List String) (members : List (Literal × Document)) : Prop :=
  ∀ m ∈ members, ∃ name, m.1.text? = some name ∧ (name ∉ names → m.2.isSkippable)

namespace Fields

theorem any_name_eq_isSome_lookup (found : List (String × Document)) (name : String) :
    found.any (·.1 == name) = (found.lookup name).isSome := by
  induction found with
  | nil => rfl
  | cons field rest ih =>
    obtain ⟨first, d⟩ := field
    by_cases same : first = name
    · subst same
      rw [List.any_cons, List.lookup_cons_self, beq_self_eq_true]
      rfl
    · rw [List.any_cons, List.lookup_cons, beq_false_of_ne same, beq_false_of_ne (Ne.symm same)]
      exact ih

/-- One member after the other: it is a field, or it is passed over. -/
theorem collect_cons_eq_some_iff {names : List String} {key : Literal} {d : Document}
    {rest : List (Literal × Document)} {found : List (String × Document)} :
    collect names ((key, d) :: rest) = some found ↔
      ∃ name others, key.text? = some name ∧ collect names rest = some others ∧
        ((name ∈ names ∧ others.lookup name = none ∧ found = (name, d) :: others) ∨
          (name ∉ names ∧ d.isSkippable ∧ found = others)) := by
  rw [collect]
  cases named : key.text? with
  | none => simp
  | some name =>
    cases later : collect names rest with
    | none => simp
    | some others =>
      rw [Option.bind_eq_bind, Option.bind_some, Option.bind_eq_bind, Option.bind_some,
        any_name_eq_isSome_lookup]
      by_cases known : name ∈ names
      · cases looked : others.lookup name with
        | none => simp [known, looked, eq_comm (b := found), -List.lookup_eq_none_iff]
        | some before => simp [known, looked, -List.lookup_eq_none_iff]
      · by_cases skipped : d.isSkippable
        · simp [known, skipped, eq_comm (b := found)]
        · simp [known, skipped]

/-- A field is found where it stands first. -/
theorem lookup_of_collect {names : List String} {members : List (Literal × Document)}
    {found : List (String × Document)} (collected : collect names members = some found)
    {name : String} (known : name ∈ names) : found.lookup name = (valuesOf name members).head? := by
  induction members generalizing found with
  | nil =>
    cases collected
    rfl
  | cons m rest ih =>
    obtain ⟨key, d⟩ := m
    obtain ⟨first, others, named, later, ⟨-, -, rfl⟩ | ⟨foreign, -, rfl⟩⟩ :=
      collect_cons_eq_some_iff.mp collected
    · by_cases same : first = name
      · subst same
        rw [valuesOf_cons_same named, List.lookup_cons_self, List.head?_cons]
      · rw [valuesOf_cons_other named same, List.lookup_cons, beq_false_of_ne (Ne.symm same)]
        exact ih later
    · have different : first ≠ name := fun same => foreign (same ▸ known)
      rw [valuesOf_cons_other named different]
      exact ih later

/-- A member of a known name stands once if no later one has its name. -/
theorem forall_length_valuesOf_cons_le_one {names : List String} {key : Literal} {first : String}
    {d : Document} {rest : List (Literal × Document)} (named : key.text? = some first) :
    (∀ name ∈ names, (valuesOf name ((key, d) :: rest)).length ≤ 1) ↔
      (first ∈ names → valuesOf first rest = []) ∧
        ∀ name ∈ names, (valuesOf name rest).length ≤ 1 := by
  constructor
  · intro once
    have alone : first ∈ names → valuesOf first rest = [] := by
      intro known
      have here := once first known
      rw [valuesOf_cons_same named, List.length_cons] at here
      exact List.eq_nil_of_length_eq_zero (by omega)
    refine ⟨alone, fun name known => ?_⟩
    by_cases same : first = name
    · subst same
      simp [alone known]
    · have here := once name known
      rwa [valuesOf_cons_other named same] at here
  · rintro ⟨alone, once⟩ name known
    by_cases same : first = name
    · subst same
      simp [valuesOf_cons_same named, alone known]
    · rw [valuesOf_cons_other named same]
      exact once name known

/-- Fields are collected if and only if the members are legible and none of the names stands
twice. -/
theorem exists_collect_iff {names : List String} {members : List (Literal × Document)} :
    (∃ found, collect names members = some found) ↔
      Legible names members ∧ ∀ name ∈ names, (valuesOf name members).length ≤ 1 := by
  induction members with
  | nil => simp [collect, Legible, valuesOf]
  | cons m rest ih =>
    obtain ⟨key, d⟩ := m
    constructor
    · rintro ⟨found, collected⟩
      obtain ⟨first, others, named, later, here⟩ := collect_cons_eq_some_iff.mp collected
      obtain ⟨legible, once⟩ := ih.mp ⟨others, later⟩
      rw [forall_length_valuesOf_cons_le_one named]
      obtain ⟨known, absent, -⟩ | ⟨foreign, skipped, -⟩ := here
      · rw [lookup_of_collect later known, List.head?_eq_none_iff] at absent
        exact ⟨List.forall_mem_cons.mpr ⟨⟨first, named, fun foreign => absurd known foreign⟩,
          legible⟩, fun _ => absent, once⟩
      · exact ⟨List.forall_mem_cons.mpr ⟨⟨first, named, fun _ => skipped⟩, legible⟩,
          fun known => absurd known foreign, once⟩
    · rintro ⟨legible, once⟩
      obtain ⟨⟨first, named, foreign⟩, legible⟩ := List.forall_mem_cons.mp legible
      obtain ⟨alone, once⟩ := (forall_length_valuesOf_cons_le_one named).mp once
      obtain ⟨others, later⟩ := ih.mpr ⟨legible, once⟩
      by_cases known : first ∈ names
      · have absent : others.lookup first = none := by
          rw [lookup_of_collect later known, alone known, List.head?_nil]
        exact ⟨_, collect_cons_eq_some_iff.mpr
          ⟨first, others, named, later, .inl ⟨known, absent, rfl⟩⟩⟩
      · exact ⟨_, collect_cons_eq_some_iff.mpr
          ⟨first, others, named, later, .inr ⟨known, foreign known, rfl⟩⟩⟩

/-- A field that was found stands once. -/
theorem lookup_eq_some_iff_of_collect {names : List String} {members : List (Literal × Document)}
    {found : List (String × Document)} (collected : collect names members = some found)
    {name : String} (known : name ∈ names) {d : Document} :
    found.lookup name = some d ↔ valuesOf name members = [d] := by
  have once := (exists_collect_iff.mp ⟨found, collected⟩).2 name known
  rw [lookup_of_collect collected known]
  cases values : valuesOf name members with
  | nil => simp
  | cons first rest =>
    rw [values, List.length_cons] at once
    have alone : rest = [] := List.eq_nil_of_length_eq_zero (by omega)
    simp [alone]

theorem ofDocument_object_eq_some_iff {names : List String} {depth : Nat} {buffered : Bool}
    {members : List (Literal × Document)} {fields : Fields} :
    ofDocument names ⟨depth + 1, buffered⟩ (.object members) = some fields ↔
      ∃ found, collect names members = some found ∧ fields = ⟨found, true, ⟨depth, buffered⟩⟩ := by
  simp [ofDocument, ofObject, Scope.enter, Option.bind_eq_some_iff, eq_comm (b := fields)]

theorem ofDocument_array_eq_some_iff {names : List String} {depth : Nat} {buffered : Bool}
    {items : List Document} {fields : Fields} :
    ofDocument names ⟨depth + 1, buffered⟩ (.array items) = some fields ↔
      items.length ≤ names.length ∧ fields = ⟨names.zip items, false, ⟨depth, buffered⟩⟩ := by
  simp [ofDocument, Scope.enter, eq_comm (b := fields)]

end Fields

def Document.integer? : Document → Option Int
  | .number n => n.integer?
  | _ => none

theorem decodeInteger_eq_some_iff {low high i : Int} {d : Document} :
    decodeInteger low high d = some i ↔ d.integer? = some i ∧ low ≤ i ∧ i ≤ high := by
  cases d with
  | number n => simp [decodeInteger, Document.integer?, Option.filter_eq_some_iff]
  | _ => simp [decodeInteger, Document.integer?]

/-- A word is read of the number that it holds, and of no other document. -/
theorem decodeWord_eq_some_iff {α : Type} {high : Int} {ofNat : Nat → α} {toNat : α → Nat}
    (bounded : ∀ a, (toNat a : Int) ≤ high) (back : ∀ a, ofNat (toNat a) = a)
    (kept : ∀ n : Nat, (n : Int) ≤ high → toNat (ofNat n) = n) {d : Document} {a : α} :
    (decodeInteger 0 high d).map (fun i => ofNat i.toNat) = some a ↔
      d.integer? = some (toNat a : Int) := by
  rw [Option.map_eq_some_iff]
  constructor
  · rintro ⟨i, read, rfl⟩
    obtain ⟨integer, low, range⟩ := decodeInteger_eq_some_iff.mp read
    have natural : (i.toNat : Int) = i := Int.toNat_of_nonneg low
    rw [kept i.toNat (by omega), natural, integer]
  · intro integer
    refine ⟨_, decodeInteger_eq_some_iff.mpr ⟨integer, Int.natCast_nonneg _, bounded a⟩, ?_⟩
    rw [Int.toNat_natCast, back]

theorem decode_word16_eq_some_iff {scope : Scope} {d : Document} {n : UInt16} :
    Form.decode scope d = some n ↔ d.integer? = some (n.toNat : Int) := by
  refine decodeWord_eq_some_iff (fun n => ?_) (fun _ => UInt16.ofNat_toNat) (fun n range => ?_)
  · have small := n.toNat_lt
    omega
  · exact UInt16.toNat_ofNat_of_lt' (by rw [UInt16.size]; omega)

theorem decode_word64_eq_some_iff {scope : Scope} {d : Document} {n : UInt64} :
    Form.decode scope d = some n ↔ d.integer? = some (n.toNat : Int) := by
  refine decodeWord_eq_some_iff (fun n => ?_) (fun _ => UInt64.ofNat_toNat) (fun n range => ?_)
  · have small := n.toNat_lt
    omega
  · exact UInt64.toNat_ofNat_of_lt' (by rw [UInt64.size]; omega)

end SwitchAgent.Json
