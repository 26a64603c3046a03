import SwitchAgent.Json.Form
import SwitchAgent.Proofs.Json.Documents

/-!
# Forms that read what they write

A type is read back from its own document wherever there are enough levels left for it. Records
are built from their members: a name that is given is found, and what it stands for is read.
-/

namespace SwitchAgent.Json

/-- A form that reads back what it writes. -/
class Form.Lawful (α : Type) [Form α] : Prop where
  exact (a : α) : (encode a).Exact
  decode_encode (a : α) (scope : Scope) (shallow : (encode a).nesting ≤ scope.depth) :
    Form.decode scope (encode a).toDocument = some a

variable {α : Type}

/-- The text of a value is read as the value itself is. -/
theorem read_text_eq [Form α] {v : Value} (exact : v.Exact) :
    (read v.text : Option α) = readValue v := by
  rw [read, v.read_text exact, Option.bind_some, readValue]

theorem read_write_of_decode [Form α] {a : α} (exact : (encode a).Exact)
    (decoded : Form.decode .outer (encode a).toDocument = some a) : read (write a) = some a :=
  (read_text_eq exact).trans decoded

theorem readValue_encode [Form α] [Form.Lawful α] (a : α) (shallow : (encode a).nesting ≤ 127) :
    readValue (encode a) = some a :=
  Form.Lawful.decode_encode a .outer shallow

instance : Form.Lawful String where
  exact _ := trivial
  decode_encode s _ _ := Literal.text?_ofString s

theorem decodeInteger_integer {low high n : Int} (range : low ≤ n ∧ n ≤ high)
    (exact : (Value.integer n).Exact) :
    decodeInteger low high (Value.integer n).toDocument = some n := by
  have whole := Numeral.integer?_ofInt exact.1 exact.2
  simp [Value.toDocument, decodeInteger, whole, range]

instance : Form.Lawful UInt16 where
  exact n := by
    have bound := n.toNat_lt
    constructor <;> omega
  decode_encode n scope shallow := by
    have bound := n.toNat_lt
    have read := @decodeInteger_integer 0 0xffff n.toNat (by omega) (by constructor <;> omega)
    simp [Form.decode, encode, read]

instance : Form.Lawful UInt32 where
  exact n := by
    have bound := n.toNat_lt
    constructor <;> omega
  decode_encode n scope shallow := by
    have bound := n.toNat_lt
    have read := @decodeInteger_integer 0 0xffffffff n.toNat (by omega) (by constructor <;> omega)
    simp [Form.decode, encode, read]

instance : Form.Lawful UInt64 where
  exact n := by
    have bound := n.toNat_lt
    constructor <;> omega
  decode_encode n scope shallow := by
    have bound := n.toNat_lt
    have read := @decodeInteger_integer 0 0xffffffffffffffff n.toNat (by omega)
      (by constructor <;> omega)
    simp [Form.decode, encode, read]

instance : Form.Lawful Int32 where
  exact n := by
    have low := n.le_toInt
    have high := n.toInt_lt
    constructor <;> omega
  decode_encode n scope shallow := by
    have low := n.le_toInt
    have high := n.toInt_lt
    have read := @decodeInteger_integer (-0x80000000) 0x7fffffff n.toInt (by omega)
      (by constructor <;> omega)
    simp [Form.decode, encode, read]

instance : Form.Lawful Int64 where
  exact n := by
    have low := n.le_toInt
    have high := n.toInt_lt
    constructor <;> omega
  decode_encode n scope shallow := by
    have low := n.le_toInt
    have high := n.toInt_lt
    have read := @decodeInteger_integer (-0x8000000000000000) 0x7fffffffffffffff n.toInt (by omega)
      (by constructor <;> omega)
    simp [Form.decode, encode, read]

theorem decodeByte_integer (b : UInt8) :
    decodeByte (Value.integer b.toNat).toDocument = some b := by
  have bound := b.toNat_lt
  have read := @decodeInteger_integer 0 0xff b.toNat (by omega) (by constructor <;> omega)
  simp [decodeByte, read]

theorem Value.allExact_map {f : α → Value} (exact : ∀ a, (f a).Exact) (as : List α) :
    Value.AllExact (as.map f) := by
  induction as with
  | nil => trivial
  | cons a as ih => exact ⟨exact a, ih⟩

/-- The items of a list are read one by one, each one level further down. -/
theorem decodeItems_map {f : α → Value} {decode : Scope → Document → Option α} (as : List α)
    (scope : Scope) (shallow : (Value.array (as.map f)).nesting ≤ scope.depth)
    (item : ∀ a, ∀ inner : Scope, (f a).nesting ≤ inner.depth →
      decode inner (f a).toDocument = some a) :
    decodeItems decode scope (Value.array (as.map f)).toDocument = some as := by
  obtain ⟨depth, buffered⟩ := scope
  cases depth with
  | zero => exact absurd shallow (Nat.not_succ_le_zero _)
  | succ depth =>
    have inner : Value.itemNesting (as.map f) ≤ depth := Nat.le_of_succ_le_succ shallow
    have items : (Value.toDocuments (as.map f)).mapM (decode ⟨depth, buffered⟩) = some as := by
      clear shallow
      induction as with
      | nil => rfl
      | cons a as ih =>
        rw [List.map_cons, Value.itemNesting, Nat.max_le] at inner
        simp [Value.toDocuments, item a ⟨depth, buffered⟩ inner.1, ih inner.2]
    exact items

instance [Form α] [Form.Lawful α] : Form.Lawful (List α) where
  exact as := Value.allExact_map Form.Lawful.exact as
  decode_encode as scope shallow :=
    decodeItems_map as scope shallow fun a inner => Form.Lawful.decode_encode a inner

instance : Form.Lawful (List UInt8) where
  exact bytes := by
    refine Value.allExact_map (fun b => ?_) bytes
    have bound := b.toNat_lt
    constructor <;> omega
  decode_encode bytes scope shallow :=
    decodeItems_map bytes scope shallow fun b _ _ => decodeByte_integer b

/-- The fields that are known once an object has been opened: its members, each with a level to
spare. -/
structure Fields.Give (fields : Fields) (members : List (String × Value)) : Prop where
  found : fields.found = members.map fun m => (m.1, m.2.toDocument)
  distinct : (members.map Prod.fst).Nodup
  shallow (name : String) (v : Value) (given : (name, v) ∈ members) :
    v.nesting ≤ fields.scope.depth

namespace Fields

theorem collect_members (members : List (String × Value)) (names : List String)
    (known : ∀ m ∈ members, m.1 ∈ names) (distinct : (members.map Prod.fst).Nodup) :
    collect names (Value.toDocumentMembers members) =
      some (members.map fun m => (m.1, m.2.toDocument)) := by
  induction members with
  | nil => rfl
  | cons m ms ih =>
    obtain ⟨name, v⟩ := m
    rw [List.map_cons, List.nodup_cons] at distinct
    have others := ih (fun m later => known m (List.mem_cons_of_mem _ later)) distinct.2
    have listed : name ∈ names := known _ List.mem_cons_self
    have once : ∀ w : Value, (name, w) ∉ ms := fun w later =>
      distinct.1 (List.mem_map.mpr ⟨(name, w), later, rfl⟩)
    simp [Value.toDocumentMembers, collect, Literal.text?_ofString, others, listed, once]

theorem nesting_le_of_mem {members : List (String × Value)} {name : String} {v : Value}
    (given : (name, v) ∈ members) : v.nesting ≤ Value.memberNesting members := by
  induction members with
  | nil => exact absurd given List.not_mem_nil
  | cons m ms ih =>
    rw [Value.memberNesting]
    rcases List.mem_cons.mp given with rfl | later
    · exact Nat.le_max_left _ _
    · exact Nat.le_trans (ih later) (Nat.le_max_right _ _)

/-- An object whose members are all known is opened, and gives them. -/
theorem ofObject_object (members : List (String × Value)) (names : List String) (scope : Scope)
    (known : ∀ m ∈ members, m.1 ∈ names) (distinct : (members.map Prod.fst).Nodup)
    (shallow : (Value.object members).nesting ≤ scope.depth) :
    ∃ fields : Fields, ofObject names scope (Value.object members).toDocument = some fields ∧
      fields.Give members := by
  obtain ⟨depth, buffered⟩ := scope
  cases depth with
  | zero => exact absurd shallow (Nat.not_succ_le_zero _)
  | succ depth =>
    refine ⟨⟨members.map fun m => (m.1, m.2.toDocument), true, ⟨depth, buffered⟩⟩, ?_, rfl,
      distinct, ?_⟩
    · simp [Value.toDocument, ofObject, Scope.enter, collect_members members names known distinct]
    · intro name v given
      exact Nat.le_trans (nesting_le_of_mem given) (Nat.le_of_succ_le_succ shallow)

variable {fields : Fields} {members : List (String × Value)} {β : Type}

/-- A record is what is built from the fields that its object gives. -/
theorem decode_object {names : List String} {scope : Scope} {build : Fields → Option β}
    {result : Option β} (known : ∀ m ∈ members, m.1 ∈ names)
    (distinct : (members.map Prod.fst).Nodup)
    (shallow : (Value.object members).nesting ≤ scope.depth)
    (built : ∀ fields : Fields, fields.Give members → build fields = result) :
    (ofDocument names scope (Value.object members).toDocument).bind build = result := by
  obtain ⟨fields, opened, give⟩ := ofObject_object members names scope known distinct shallow
  have opened : ofDocument names scope (Value.object members).toDocument = some fields := opened
  rw [opened, Option.bind_some]
  exact built fields give

theorem Give.get? (give : fields.Give members) {name : String} {v : Value}
    (given : (name, v) ∈ members) : fields.get? name = some v.toDocument := by
  obtain ⟨found, distinct, -⟩ := give
  rw [Fields.get?, found]
  clear found
  induction members with
  | nil => exact absurd given List.not_mem_nil
  | cons m ms ih =>
    rw [List.map_cons, List.nodup_cons] at distinct
    rcases List.mem_cons.mp given with rfl | later
    · simp
    · have other : name ≠ m.1 := fun same =>
        distinct.1 (List.mem_map.mpr ⟨(name, v), later, same⟩)
      rw [List.map_cons, List.lookup_cons, beq_false_of_ne other]
      exact ih later distinct.2

/-- A field that is not given stands for its default. -/
theorem Give.absent [Form α] (give : fields.Give members) {name : String}
    (missing : ∀ m ∈ members, m.1 ≠ name) (default : α) :
    fields.withDefault name default = some default := by
  have nothing : fields.get? name = none := by
    rw [Fields.get?, give.found, List.lookup_eq_none_iff]
    intro member among
    obtain ⟨m, given, rfl⟩ := List.mem_map.mp among
    exact bne_iff_ne.mpr (missing m given).symm
  rw [Fields.withDefault, nothing]

theorem Give.value (give : fields.Give members) {name : String} {v : Value} (exact : v.Exact)
    (given : (name, v) ∈ members) (default : Value) :
    fields.withDefault name default = some v := by
  rw [Fields.withDefault, give.get? given]
  exact v.toValue?_toDocument exact _ (give.shallow name v given)

theorem Give.requiredValue (give : fields.Give members) {name : String} {v : Value}
    (exact : v.Exact) (given : (name, v) ∈ members) : fields.required name = some v := by
  rw [Fields.required, give.get? given, Option.bind_some]
  exact v.toValue?_toDocument exact _ (give.shallow name v given)

variable [Form α] [Form.Lawful α]

theorem Give.required (give : fields.Give members) {name : String} {a : α}
    (given : (name, encode a) ∈ members) : fields.required name = some a := by
  rw [Fields.required, give.get? given, Option.bind_some]
  exact Form.Lawful.decode_encode a _ (give.shallow name _ given)

theorem Give.withDefault (give : fields.Give members) {name : String} {a : α}
    (given : (name, encode a) ∈ members) (default : α) :
    fields.withDefault name default = some a := by
  rw [Fields.withDefault, give.get? given]
  exact Form.Lawful.decode_encode a _ (give.shallow name _ given)

theorem Give.optional (give : fields.Give members) {name : String} {a : Option α}
    (present : ∀ a : α, (encode a).toDocument ≠ .null)
    (given : (name, (match a with | none => .null | some a => encode a : Value)) ∈ members) :
    fields.optional name = some a := by
  rw [Fields.optional, give.get? given]
  cases a with
  | none => rfl
  | some a =>
    have read := Form.Lawful.decode_encode a _ (give.shallow name _ given)
    have there := present a
    dsimp only at read ⊢
    split
    · next absent => cases absent
    · next null => exact absurd (Option.some.inj null) there
    · next document =>
      rw [← Option.some.inj document, read]
      rfl

end Fields

@[simp] theorem encodeChoice_nesting (name : String) (content : Value) :
    (encodeChoice name content).nesting = content.nesting + 1 :=
  congrArg (· + 1) (Nat.max_zero content.nesting)

@[simp] theorem encodeChoice_toDocument (name : String) (content : Value) :
    (encodeChoice name content).toDocument = .object [(.ofString name, content.toDocument)] := rfl

theorem choiceName_string (name : String) (scope : Scope) :
    choiceName scope (Value.string name).toDocument = some name :=
  Literal.text?_ofString name

/-- A choice with content gives its name and the content, one level further down. -/
theorem choiceContent_encodeChoice {name : String} {content : Value} {scope : Scope}
    (shallow : (encodeChoice name content).nesting ≤ scope.depth) :
    ∃ inner : Scope,
      choiceContent scope (encodeChoice name content).toDocument =
        some (name, content.toDocument, inner) ∧
      content.nesting ≤ inner.depth := by
  obtain ⟨depth, buffered⟩ := scope
  rw [encodeChoice_nesting] at shallow
  cases depth with
  | zero => exact absurd shallow (Nat.not_succ_le_zero _)
  | succ depth =>
    refine ⟨⟨depth, buffered⟩, ?_, Nat.le_of_succ_le_succ shallow⟩
    simp [choiceContent, Scope.enter, Literal.text?_ofString]

/-- A choice is read back if its name tells what is made of its content. -/
theorem decode_choice {β : Type} [Form α] [Form.Lawful α] {make : α → β}
    {next : String × Document × Scope → Option β} {name : String} {a : α} {scope : Scope}
    (shallow : (encodeChoice name (encode a)).nesting ≤ scope.depth)
    (known : ∀ d inner, next (name, d, inner) = (Form.decode inner d).map make) :
    (choiceContent scope (encodeChoice name (encode a)).toDocument).bind next =
      some (make a) := by
  obtain ⟨inner, opened, fits⟩ := choiceContent_encodeChoice shallow
  rw [opened, Option.bind_some, known, Form.Lawful.decode_encode a inner fits, Option.map_some]

@[simp] theorem encodeTagged_nesting (tag : String) (body : Value) :
    (encodeTagged tag body).nesting = body.nesting + 1 := by
  have deepest : max 0 (max body.nesting 0) = body.nesting := by omega
  exact congrArg (· + 1) deepest

theorem encodeTagged_exact (tag : String) {body : Value} (exact : body.Exact) :
    (encodeTagged tag body).Exact :=
  ⟨by simp, trivial, exact, trivial⟩

/-- The tag comes first, so the body need not be kept. -/
theorem Tagged.ofDocument_encodeTagged (tag : String) (body : Value) (scope : Scope)
    (shallow : (encodeTagged tag body).nesting ≤ scope.depth) :
    ∃ inner : Scope, Tagged.ofDocument scope (encodeTagged tag body).toDocument =
        some (tag, body.toDocument, inner) ∧
      body.nesting ≤ inner.depth ∧ inner.depth ≤ scope.depth := by
  obtain ⟨depth, buffered⟩ := scope
  cases depth with
  | zero => exact absurd shallow (Nat.not_succ_le_zero _)
  | succ depth =>
    refine ⟨⟨depth, buffered⟩, ?_, ?_, Nat.le_succ depth⟩
    · simp [encodeTagged, Value.toDocument, Value.toDocumentMembers, Tagged.ofDocument,
        Scope.enter, Tagged.members, Tagged.member, choiceName, Literal.text?_ofString]
    · rw [encodeTagged_nesting] at shallow
      exact Nat.le_of_succ_le_succ shallow

end SwitchAgent.Json
