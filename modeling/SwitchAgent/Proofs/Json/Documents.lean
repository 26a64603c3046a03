import SwitchAgent.Proofs.Json.Tokens

/-!
# Values read back

What is written of a value is read as its document, and the document stands for the value again.
This holds of values that have nothing the reader would change: 64-bit integers, no other numbers,
and no name twice in an object.
-/

namespace SwitchAgent.Json

mutual

/-- The value is kept by writing and reading. -/
def Value.Exact : Value → Prop
  | .integer n => -2 ^ 63 ≤ n ∧ n < 2 ^ 64
  | .decimal _ => False
  | .array items => Value.AllExact items
  | .object members => (members.map Prod.fst).Nodup ∧ Value.MembersExact members
  | _ => True
termination_by structural v => v

def Value.AllExact : List Value → Prop
  | [] => True
  | v :: vs => v.Exact ∧ Value.AllExact vs
termination_by structural vs => vs

def Value.MembersExact : List (String × Value) → Prop
  | [] => True
  | (_, v) :: rest => v.Exact ∧ Value.MembersExact rest
termination_by structural ms => ms

end

mutual

/-- How many levels of arrays and objects a value has. -/
def Value.nesting : Value → Nat
  | .array items => Value.itemNesting items + 1
  | .object members => Value.memberNesting members + 1
  | _ => 0
termination_by structural v => v

def Value.itemNesting : List Value → Nat
  | [] => 0
  | v :: vs => max v.nesting (Value.itemNesting vs)
termination_by structural vs => vs

def Value.memberNesting : List (String × Value) → Nat
  | [] => 0
  | (_, v) :: rest => max v.nesting (Value.memberNesting rest)
termination_by structural ms => ms

end

theorem ne_of_isDigit {d c : Char} (digit : d.isDigit = true) (mark : c.isDigit = false) :
    d ≠ c := by
  rintro rfl
  rw [digit] at mark
  cases mark

theorem isLayout_digit {d : Char} (digit : d.isDigit = true) : isLayout d = false := by
  have space : d ≠ ' ' := ne_of_isDigit digit (by decide)
  have tab : d ≠ '\t' := ne_of_isDigit digit (by decide)
  have feed : d ≠ '\n' := ne_of_isDigit digit (by decide)
  have back : d ≠ '\r' := ne_of_isDigit digit (by decide)
  simp [isLayout, space, tab, feed, back]

theorem decimalDigits_head (n : Nat) :
    ∃ d ds, decimalDigits n = d :: ds ∧ d.isDigit = true := by
  cases digits : decimalDigits n with
  | nil => exact absurd digits Nat.toDigits_ne_nil
  | cons d ds =>
    refine ⟨d, ds, rfl, isDigit_of_mem_decimalDigits (n := n) ?_⟩
    rw [digits]
    exact List.mem_cons_self

/-- A value starts with a character that is no layout and closes nothing. -/
theorem Value.write_head (v : Value) (exact : v.Exact) :
    ∃ c cs, v.write = c :: cs ∧ isLayout c = false ∧ c ≠ ']' ∧ c ≠ '\x7d' := by
  cases v with
  | null => exact ⟨_, _, rfl, by decide, by decide, by decide⟩
  | bool b => cases b <;> exact ⟨_, _, rfl, by decide, by decide, by decide⟩
  | integer n =>
    rw [Value.write, writeInteger]
    by_cases negative : n < 0
    · rw [if_pos negative]
      exact ⟨_, _, rfl, by decide, by decide, by decide⟩
    · obtain ⟨d, ds, digits, digit⟩ := decimalDigits_head n.natAbs
      rw [if_neg negative, digits]
      exact ⟨d, ds, rfl, isLayout_digit digit, ne_of_isDigit digit (by decide),
        ne_of_isDigit digit (by decide)⟩
  | decimal n => exact absurd exact id
  | string s => exact ⟨'"', _, rfl, by decide, by decide, by decide⟩
  | array items => exact ⟨'[', _, rfl, by decide, by decide, by decide⟩
  | object members => exact ⟨'\x7b', _, rfl, by decide, by decide, by decide⟩

theorem skipLayout_cons {c : Char} (layout : isLayout c = false) (cs : List Char) :
    skipLayout (c :: cs) = c :: cs := by
  simp [skipLayout, layout]

theorem readDocument_digit {d : Char} (digit : d.isDigit = true) (fuel : Nat) (cs : List Char) :
    readDocument (fuel + 1) (d :: cs) =
      (readNumeral false (d :: cs)).map fun read => (.number read.1, read.2) := by
  have other {c : Char} {tail : List Char} (same : d :: cs = c :: tail)
      (mark : c.isDigit = false) : False :=
    ne_of_isDigit digit mark (List.cons.inj same).1
  rw [readDocument, skipLayout_cons (isLayout_digit digit)]
  -- No word, string, bracket or sign starts with a digit.
  split
  · next same => exact (other same (by decide)).elim
  · next same => exact (other same (by decide)).elim
  · next same => exact (other same (by decide)).elim
  · next same => exact (other same (by decide)).elim
  · next same => exact (other same (by decide)).elim
  · next same => exact (other same (by decide)).elim
  · next same => exact (other same (by decide)).elim
  · cases readNumeral false (d :: cs) <;> rfl

theorem readDocument_integer {n : Int} (low : -2 ^ 63 ≤ n) (high : n < 2 ^ 64) (fuel : Nat)
    {rest : List Char} (ends : Delimits rest) :
    readDocument (fuel + 1) (writeInteger n ++ rest) = some (.number (.ofInt n), rest) := by
  have fits : n.natAbs < UInt64.size := by
    rw [UInt64.size]
    omega
  by_cases negative : n < 0
  · rw [writeInteger, if_pos negative, List.cons_append, readDocument,
      skipLayout_cons (by decide)]
    simp [readNumeral_decimalDigits true fits ends, Numeral.ofInt, negative]
  · obtain ⟨d, ds, digits, digit⟩ := decimalDigits_head n.natAbs
    have read := readNumeral_decimalDigits false fits ends
    rw [digits, List.cons_append] at read
    rw [writeInteger, if_neg negative, digits, List.cons_append, readDocument_digit digit, read]
    simp [Numeral.ofInt, negative]

theorem readDocument_array {c : Char} (layout : isLayout c = false) (closes : c ≠ ']')
    (fuel : Nat) (cs : List Char) :
    readDocument (fuel + 1) ('[' :: c :: cs) =
      (readItems fuel (c :: cs)).map fun read => (.array read.1, read.2) := by
  have bracket : isLayout '[' = false := by decide
  cases items : readItems fuel (c :: cs) <;>
    simp [readDocument, skipLayout, bracket, layout, closes, items]

theorem readDocument_object {c : Char} (layout : isLayout c = false) (closes : c ≠ '\x7d')
    (fuel : Nat) (cs : List Char) :
    readDocument (fuel + 1) ('\x7b' :: c :: cs) =
      (readMembers fuel (c :: cs)).map fun read => (.object read.1, read.2) := by
  have brace : isLayout '\x7b' = false := by decide
  cases members : readMembers fuel (c :: cs) <;>
    simp [readDocument, skipLayout, brace, layout, closes, members]

/-- A member is its name and its value; `tail` tells whether another one follows. -/
theorem readMembers_member (name : String) (fuel : Nat) (cs : List Char) {d : Document}
    {c : Char} {tail : List Char} (layout : isLayout c = false)
    (item : readDocument fuel cs = some (d, c :: tail)) :
    readMembers (fuel + 1) (writeString name ++ ':' :: cs) =
      if c = ',' then
        (readMembers fuel tail).map fun read => ((.ofString name, d) :: read.1, read.2)
      else if c = '\x7d' then some ([(.ofString name, d)], tail)
      else none := by
  have quote : isLayout '"' = false := by decide
  have colon : isLayout ':' = false := by decide
  have key : readLiteral (name.toList.flatMap escapeChar ++ '"' :: ':' :: cs) =
      some (.ofString name, ':' :: cs) := readLiteral_writeString name _
  rw [writeString, List.append_assoc, List.cons_append, List.singleton_append, readMembers,
    skipLayout_cons quote]
  simp only [Option.bind_eq_bind, key, Option.bind_some, skipLayout_cons colon, item,
    skipLayout_cons layout]
  split
  · next same =>
    obtain ⟨rfl, rfl⟩ := List.cons.inj same
    rw [if_pos rfl]
    cases readMembers fuel tail <;> rfl
  · next same =>
    obtain ⟨rfl, rfl⟩ := List.cons.inj same
    rfl
  · next comma brace =>
    have noComma : c ≠ ',' := fun same => comma tail (congrArg (· :: tail) same)
    have noBrace : c ≠ '\x7d' := fun same => brace tail (congrArg (· :: tail) same)
    rw [if_neg noComma, if_neg noBrace]

mutual

/-- What is written of a value is read as its document. The fuel has to outlast the text. -/
theorem readDocument_write (v : Value) (exact : v.Exact) (fuel : Nat) (rest : List Char)
    (enough : v.write.length < fuel) (ends : Delimits rest) :
    readDocument fuel (v.write ++ rest) = some (v.toDocument, rest) := by
  cases fuel with
  | zero => exact absurd enough (Nat.not_lt_zero _)
  | succ fuel =>
    cases v with
    | null => simp [Value.write, readDocument, skipLayout, isLayout, Value.toDocument]
    | bool b =>
      cases b <;> simp [Value.write, readDocument, skipLayout, isLayout, Value.toDocument]
    | integer n => exact readDocument_integer exact.1 exact.2 fuel ends
    | decimal n => exact absurd exact id
    | string s =>
      simp [Value.write, readDocument, skipLayout, isLayout, Value.toDocument, writeString,
        readLiteral_writeString]
    | array items =>
      rw [Value.write, List.length_append, List.length_cons, List.length_singleton] at enough
      rw [Value.write, List.append_assoc, List.cons_append, List.singleton_append]
      cases items with
      | nil => simp [Value.writeItems, Value.toDocument, Value.toDocuments, skipLayout, isLayout,
          readDocument]
      | cons v vs =>
        have items := readItems_write (v :: vs) exact (List.cons_ne_nil v vs) fuel rest (by omega)
        obtain ⟨c, cs, head, layout, closes, -⟩ := v.write_head exact.1
        have front : ∃ tail, Value.writeItems (v :: vs) ++ ']' :: rest = c :: tail := by
          rw [Value.writeItems, head]
          exact ⟨_, rfl⟩
        obtain ⟨tail, front⟩ := front
        rw [front] at items ⊢
        rw [readDocument_array layout closes, items]
        rfl
    | object members =>
      rw [Value.write, List.length_append, List.length_cons, List.length_singleton] at enough
      rw [Value.write, List.append_assoc, List.cons_append, List.singleton_append]
      cases members with
      | nil => simp [Value.writeMembers, Value.toDocument, Value.toDocumentMembers, skipLayout,
          isLayout, readDocument]
      | cons m ms =>
        have members := readMembers_write (m :: ms) exact.2 (List.cons_ne_nil m ms) fuel rest
          (by omega)
        have front : ∃ tail, Value.writeMembers (m :: ms) ++ '\x7d' :: rest = '"' :: tail :=
          ⟨_, rfl⟩
        obtain ⟨tail, front⟩ := front
        rw [front] at members ⊢
        rw [readDocument_object (by decide) (by decide), members]
        rfl
termination_by structural v

theorem readItems_write (vs : List Value) (exact : Value.AllExact vs) (some_item : vs ≠ [])
    (fuel : Nat) (rest : List Char) (enough : (Value.writeItems vs).length + 1 < fuel) :
    readItems fuel (Value.writeItems vs ++ ']' :: rest) = some (Value.toDocuments vs, rest) := by
  cases fuel with
  | zero => exact absurd enough (Nat.not_lt_zero _)
  | succ fuel =>
    cases vs with
    | nil => exact absurd rfl some_item
    | cons v vs =>
      cases vs with
      | nil =>
        rw [Value.writeItems, List.isEmpty_nil, if_pos rfl, List.append_nil] at enough ⊢
        have item := readDocument_write v exact.1 fuel (']' :: rest) (by omega) (by simp [Delimits])
        rw [readItems, item]
        simp [skipLayout, isLayout, Value.toDocuments]
      | cons w ws =>
        rw [Value.writeItems, List.isEmpty_cons, if_neg (by decide)] at enough ⊢
        rw [List.length_append, List.length_cons] at enough
        have item := readDocument_write v exact.1 fuel
          (',' :: (Value.writeItems (w :: ws) ++ ']' :: rest)) (by omega) (by simp [Delimits])
        have items := readItems_write (w :: ws) exact.2 (List.cons_ne_nil w ws) fuel rest (by omega)
        rw [List.append_assoc, List.cons_append, readItems, item]
        simp [skipLayout, isLayout, items, Value.toDocuments]
termination_by structural vs

theorem readMembers_write (ms : List (String × Value)) (exact : Value.MembersExact ms)
    (some_member : ms ≠ []) (fuel : Nat) (rest : List Char)
    (enough : (Value.writeMembers ms).length + 1 < fuel) :
    readMembers fuel (Value.writeMembers ms ++ '\x7d' :: rest) =
      some (Value.toDocumentMembers ms, rest) := by
  cases fuel with
  | zero => exact absurd enough (Nat.not_lt_zero _)
  | succ fuel =>
    cases ms with
    | nil => exact absurd rfl some_member
    | cons m ms =>
      obtain ⟨name, v⟩ := m
      cases ms with
      | nil =>
        rw [Value.writeMembers, List.isEmpty_nil, if_pos rfl, List.append_nil] at enough ⊢
        rw [List.length_append, List.length_cons] at enough
        have item := readDocument_write v exact.1 fuel ('\x7d' :: rest) (by omega)
          (by simp [Delimits])
        rw [List.append_assoc, List.cons_append, readMembers_member name fuel _ (by decide) item]
        rfl
      | cons m ms =>
        rw [Value.writeMembers, List.isEmpty_cons, if_neg (by decide)] at enough ⊢
        rw [List.length_append, List.length_append, List.length_cons, List.length_cons] at enough
        have item := readDocument_write v exact.1 fuel
          (',' :: (Value.writeMembers (m :: ms) ++ '\x7d' :: rest)) (by omega)
          (by simp [Delimits])
        have members := readMembers_write (m :: ms) exact.2 (List.cons_ne_nil m ms) fuel rest
          (by omega)
        rw [List.append_assoc, List.append_assoc, List.cons_append, List.cons_append,
          readMembers_member name fuel _ (by decide) item, if_pos rfl, members]
        rfl
termination_by structural ms

end

/-- Nothing is lost between a value and its text. -/
theorem Value.read_text (v : Value) (exact : v.Exact) :
    Document.read v.text = some v.toDocument := by
  have whole := readDocument_write v exact (v.write.length + 1) [] (Nat.lt_succ_self _) trivial
  rw [List.append_nil] at whole
  have chars : v.text.toList = v.write := String.toList_ofList
  have length : v.text.length = v.write.length := by rw [← String.length_toList, chars]
  rw [Document.read, length, chars, whole]
  rfl

mutual

/-- No control is written, so a text is one line. -/
theorem Value.write_printed (v : Value) : ∀ c ∈ v.write, 0x20 ≤ c.toNat := by
  intro c among
  cases v with
  | null =>
    simp only [Value.write, List.mem_cons, List.not_mem_nil, or_false] at among
    rcases among with rfl | rfl | rfl | rfl <;> decide
  | bool b =>
    cases b with
    | false =>
      simp only [Value.write, List.mem_cons, List.not_mem_nil, or_false] at among
      rcases among with rfl | rfl | rfl | rfl | rfl <;> decide
    | true =>
      simp only [Value.write, List.mem_cons, List.not_mem_nil, or_false] at among
      rcases among with rfl | rfl | rfl | rfl <;> decide
  | integer n => exact printed_of_mem_writeInteger among
  | decimal n => exact printed_of_mem_writeNumeral among
  | string s => exact printed_of_mem_writeString among
  | array items =>
    rw [Value.write, List.mem_append, List.mem_cons, List.mem_singleton] at among
    rcases among with (rfl | inside) | rfl
    · decide
    · exact Value.writeItems_printed items c inside
    · decide
  | object members =>
    rw [Value.write, List.mem_append, List.mem_cons, List.mem_singleton] at among
    rcases among with (rfl | inside) | rfl
    · decide
    · exact Value.writeMembers_printed members c inside
    · decide
termination_by structural v

theorem Value.writeItems_printed (vs : List Value) :
    ∀ c ∈ Value.writeItems vs, 0x20 ≤ c.toNat := by
  intro c among
  cases vs with
  | nil => exact absurd among List.not_mem_nil
  | cons v vs =>
    rw [Value.writeItems, List.mem_append] at among
    rcases among with first | later
    · exact v.write_printed c first
    · split at later
      · exact absurd later List.not_mem_nil
      · rcases List.mem_cons.mp later with rfl | later
        · decide
        · exact Value.writeItems_printed vs c later
termination_by structural vs

theorem Value.writeMembers_printed (ms : List (String × Value)) :
    ∀ c ∈ Value.writeMembers ms, 0x20 ≤ c.toNat := by
  intro c among
  cases ms with
  | nil => exact absurd among List.not_mem_nil
  | cons m ms =>
    obtain ⟨name, v⟩ := m
    rw [Value.writeMembers, List.mem_append, List.mem_append, List.mem_cons] at among
    rcases among with (key | rfl | first) | later
    · exact printed_of_mem_writeString key
    · decide
    · exact v.write_printed c first
    · split at later
      · exact absurd later List.not_mem_nil
      · rcases List.mem_cons.mp later with rfl | later
        · decide
        · exact Value.writeMembers_printed ms c later
termination_by structural ms

end

theorem Literal.text?_ofString (s : String) : (Literal.ofString s).text? = some s := by
  have chars (cs : List Char) : Literal.chars? (cs.map .char) = some cs := by
    induction cs with
    | nil => rfl
    | cons c cs ih => simp [Literal.chars?, ih]
  simp [Literal.text?, Literal.ofString, chars]

theorem Numeral.integer?_ofInt {n : Int} (low : -2 ^ 63 ≤ n) (high : n < 2 ^ 64) :
    (Numeral.ofInt n).integer? = some n := by
  rw [Numeral.integer?, Numeral.ofInt]
  dsimp only
  by_cases negative : n < 0
  · have fits : 0 < n.natAbs ∧ n.natAbs ≤ 0x8000000000000000 := by omega
    have value : -(n.natAbs : Int) = n := by omega
    rw [if_neg (by decide), if_pos (decide_eq_true negative), if_pos fits, value]
  · have fits : n.natAbs < UInt64.size := by
      rw [UInt64.size]
      omega
    have value : (n.natAbs : Int) = n := by omega
    rw [if_neg (by decide), if_neg (by simpa using negative), if_pos fits, value]

/-- A new name comes last. -/
theorem putMember_new (members : List (String × Value)) (name : String) (v : Value)
    (new : name ∉ members.map Prod.fst) : putMember members name v = members ++ [(name, v)] := by
  induction members with
  | nil => rfl
  | cons m ms ih =>
    rw [List.map_cons, List.mem_cons, not_or] at new
    obtain ⟨other, new⟩ := new
    simp [putMember, Ne.symm other, ih new]

mutual

/-- A document stands for the value it was made of. -/
theorem Value.toValue?_toDocument (v : Value) (exact : v.Exact) (depth : Nat)
    (shallow : v.nesting ≤ depth) : v.toDocument.toValue? depth = some v := by
  cases v with
  | null => rfl
  | bool b => rfl
  | integer n =>
    simp [Value.toDocument, Document.toValue?, Numeral.toValue?,
      Numeral.integer?_ofInt exact.1 exact.2]
  | decimal n => exact absurd exact id
  | string s => simp [Value.toDocument, Document.toValue?, Literal.text?_ofString]
  | array items =>
    cases depth with
    | zero => exact absurd shallow (Nat.not_succ_le_zero _)
    | succ depth =>
      have values := Value.toValues?_toDocuments items exact depth (Nat.le_of_succ_le_succ shallow)
      simp [Value.toDocument, Document.toValue?, values]
  | object members =>
    cases depth with
    | zero => exact absurd shallow (Nat.not_succ_le_zero _)
    | succ depth =>
      have values := Value.toMembers?_toDocumentMembers members exact.2 depth
        (Nat.le_of_succ_le_succ shallow) [] exact.1
      simp [Value.toDocument, Document.toValue?, values]
termination_by structural v

theorem Value.toValues?_toDocuments (vs : List Value) (exact : Value.AllExact vs) (depth : Nat)
    (shallow : Value.itemNesting vs ≤ depth) :
    Document.toValues? (Value.toDocuments vs) depth = some vs := by
  cases vs with
  | nil => rfl
  | cons v vs =>
    rw [Value.itemNesting, Nat.max_le] at shallow
    have first := Value.toValue?_toDocument v exact.1 depth shallow.1
    have others := Value.toValues?_toDocuments vs exact.2 depth shallow.2
    simp [Value.toDocuments, Document.toValues?, first, others]
termination_by structural vs

theorem Value.toMembers?_toDocumentMembers (ms : List (String × Value))
    (exact : Value.MembersExact ms) (depth : Nat) (shallow : Value.memberNesting ms ≤ depth)
    (seen : List (String × Value)) (distinct : ((seen ++ ms).map Prod.fst).Nodup) :
    Document.toMembers? (Value.toDocumentMembers ms) depth seen = some (seen ++ ms) := by
  cases ms with
  | nil => simp [Value.toDocumentMembers, Document.toMembers?]
  | cons m ms =>
    obtain ⟨name, v⟩ := m
    rw [Value.memberNesting, Nat.max_le] at shallow
    have new : name ∉ seen.map Prod.fst := by
      intro old
      rw [List.map_append, List.map_cons, List.nodup_append] at distinct
      exact distinct.2.2 name old name List.mem_cons_self rfl
    have first := Value.toValue?_toDocument v exact.1 depth shallow.1
    have others := Value.toMembers?_toDocumentMembers ms exact.2 depth shallow.2
      (seen ++ [(name, v)]) (by rwa [List.append_assoc])
    rw [List.append_assoc] at others
    simp [Value.toDocumentMembers, Document.toMembers?, Literal.text?_ofString, first,
      putMember_new seen name v new, others]
termination_by structural ms

end

end SwitchAgent.Json
