import Mathlib.Algebra.GroupWithZero.Nat
import SwitchAgent.Protobuf.Wire

/-!
# Fields that are read back

What a message writes field by field is read field by field: each of them takes the value that was
read so far to the next one, wherever it stands. A default that is not written leaves the value as
it is.
-/

namespace SwitchAgent.Protobuf

namespace Varint

theorem toNat_byte {n : Nat} (fits : n < 256) : (UInt8.ofNat n).toNat = n :=
  UInt8.toNat_ofNat_of_lt fits

/-- A varint of at most `more + 1` bytes holds seven bits in each but the last, and one there. -/
theorem decodeAt_encode (more n : Nat) (fits : n < 2 * 128 ^ more) (rest : List UInt8) :
    decodeAt more (encode n ++ rest) = some (n, rest) := by
  induction more generalizing n with
  | zero =>
    rw [encode, if_pos (by omega)]
    have byte : (UInt8.ofNat n).toNat = n := toNat_byte (by omega)
    simp only [List.cons_append, List.nil_append, decodeAt, byte]
    rw [if_pos (by omega)]
  | succ more ih =>
    rw [encode]
    split
    · next short =>
      have byte : (UInt8.ofNat n).toNat = n := toNat_byte (by omega)
      simp only [List.cons_append, List.nil_append, decodeAt, byte]
      rw [if_pos short]
    · next long =>
      have byte : (UInt8.ofNat (n % 128 + 128)).toNat = n % 128 + 128 :=
        toNat_byte (by omega)
      have higher : n / 128 < 2 * 128 ^ more := by
        rw [Nat.pow_succ] at fits
        omega
      simp only [List.cons_append, decodeAt, byte, ih (n / 128) higher]
      rw [if_neg (by omega)]
      simp only [Option.map_some, Option.some.injEq, Prod.mk.injEq, and_true]
      omega

theorem decode_encode {n : Nat} (fits : n < 2 ^ 64) (rest : List UInt8) :
    decode (encode n ++ rest) = some (n, rest) :=
  decodeAt_encode 9 n fits rest

theorem encode_ne_nil (n : Nat) : encode n ≠ [] := by
  rw [encode]
  split <;> simp

theorem length_encode_le (more n : Nat) (fits : n < 2 * 128 ^ more) :
    (encode n).length ≤ more + 1 := by
  induction more generalizing n with
  | zero =>
    rw [encode, if_pos (by omega)]
    exact Nat.le_refl 1
  | succ more ih =>
    rw [encode]
    split
    · simp
    · have higher : n / 128 < 2 * 128 ^ more := by
        rw [Nat.pow_succ] at fits
        omega
      exact Nat.succ_le_succ (ih (n / 128) higher)

end Varint

theorem WireType.ofCode?_code (type : WireType) : ofCode? type.code = some type := by
  cases type <;> rfl

theorem WireType.code_lt (type : WireType) : type.code < 8 := by
  cases type <;> decide

namespace Key

/-- Field numbers have 29 bits, and none is 0. -/
def Valid (key : Key) : Prop :=
  key.number ≠ 0 ∧ key.number < 2 ^ 29

theorem read_write {key : Key} (valid : key.Valid) (rest : List UInt8) :
    read (key.write ++ rest) = some (key, rest) := by
  obtain ⟨number, type⟩ := key
  obtain ⟨named, small⟩ := valid
  dsimp only at named small
  have low := type.code_lt
  have fits : number * 8 + type.code < 2 ^ 64 := by omega
  have codes : (number * 8 + type.code) % 8 = type.code := by omega
  have numbers : (number * 8 + type.code) / 8 = number := by omega
  have allowed : number * 8 + type.code < UInt32.size ∧ number ≠ 0 := by
    have size : UInt32.size = 2 ^ 32 := rfl
    omega
  simp only [read, write, Varint.decode_encode fits, Option.bind_eq_bind, Option.bind_some, codes,
    WireType.ofCode?_code, numbers]
  rw [if_pos allowed]

theorem write_ne_nil (key : Key) : key.write ≠ [] :=
  Varint.encode_ne_nil _

end Key

theorem readDelimited_append (content rest : List UInt8) (fits : content.length < 2 ^ 64) :
    readDelimited (Varint.encode content.length ++ content ++ rest) = some (content, rest) := by
  simp [readDelimited, List.append_assoc, Varint.decode_encode fits]

theorem length_le_delimitedField (number : Nat) (content : List UInt8) :
    content.length ≤ (delimitedField number content).length := by
  rw [delimitedField, List.length_append]
  omega

theorem length_le_bytesField (number : Nat) (content : List UInt8) :
    content.length ≤ (bytesField number content).length := by
  rw [bytesField]
  split
  · next empty =>
    simp [List.isEmpty_iff.mp empty]
  · exact length_le_delimitedField number content

theorem length_le_flatMap {β : Type} (write : β → List UInt8) {items : List β} {item : β}
    (among : item ∈ items) : (write item).length ≤ (items.flatMap write).length := by
  rw [List.flatMap_def]
  exact (List.sublist_flatten_of_mem (List.mem_map_of_mem among)).length_le

theorem Varint.length_encode_word_le {n : Nat} (fits : n < 2 ^ 64) : (encode n).length ≤ 10 :=
  length_encode_le 9 n fits

theorem Key.length_write_le {key : Key} (valid : key.Valid) : key.write.length ≤ 10 := by
  have low := key.type.code_lt
  obtain ⟨-, small⟩ := valid
  exact Varint.length_encode_word_le (by omega)

theorem length_varintField_le (number : Nat) {value : Nat} (valid : Key.Valid ⟨number, .varint⟩)
    (fits : value < 2 ^ 64) : (varintField number value).length ≤ 20 := by
  have key := Key.length_write_le valid
  have content := Varint.length_encode_word_le fits
  rw [varintField]
  split
  · simp
  · rw [List.length_append]
    omega

theorem length_delimitedField_le (number : Nat) (content : List UInt8)
    (valid : Key.Valid ⟨number, .delimited⟩) (fits : content.length < 2 ^ 64) :
    (delimitedField number content).length ≤ 20 + content.length := by
  have key := Key.length_write_le valid
  have length := Varint.length_encode_word_le fits
  rw [delimitedField, List.length_append, List.length_append]
  omega

theorem length_bytesField_le (number : Nat) (content : List UInt8)
    (valid : Key.Valid ⟨number, .delimited⟩) (fits : content.length < 2 ^ 64) :
    (bytesField number content).length ≤ 20 + content.length := by
  rw [bytesField]
  split
  · simp
  · exact length_delimitedField_le number content valid fits

theorem length_flatMap_le {β : Type} {write : β → List UInt8} {bound : Nat} (items : List β)
    (each : ∀ item ∈ items, (write item).length ≤ bound) :
    (items.flatMap write).length ≤ items.length * bound := by
  induction items with
  | nil => simp
  | cons item items ih =>
    have here := each item List.mem_cons_self
    have later := ih fun other member => each other (List.mem_cons_of_mem item member)
    rw [List.flatMap_cons, List.length_append, List.length_cons, Nat.succ_mul]
    omega

section Reading

variable {α : Type} {merge : Merge α} {a b c : α} {first second : List UInt8}

/-- Whatever follows these bytes, reading them turns one value into the other. -/
def Reads (merge : Merge α) (bytes : List UInt8) (a b : α) : Prop :=
  ∀ fuel rest, bytes.length + rest.length ≤ fuel →
    ∃ left, rest.length ≤ left ∧
      readFields merge fuel a (bytes ++ rest) = readFields merge left b rest

namespace Reads

theorem nothing : Reads merge [] a a := by
  intro fuel rest enough
  exact ⟨fuel, by simpa using enough, rfl⟩

theorem append (one : Reads merge first a b) (other : Reads merge second b c) :
    Reads merge (first ++ second) a c := by
  intro fuel rest enough
  rw [List.length_append] at enough
  obtain ⟨middle, room, same⟩ := one fuel (second ++ rest) (by rw [List.length_append]; omega)
  rw [List.length_append] at room
  obtain ⟨left, room', same'⟩ := other middle rest room
  exact ⟨left, room', by rw [List.append_assoc, same, same']⟩

/-- A field is taken up by its message, which leaves what follows. -/
theorem field {key : Key} {content : List UInt8} (valid : key.Valid)
    (taken : ∀ rest, merge a key (content ++ rest) = some (b, rest)) :
    Reads merge (key.write ++ content) a b := by
  intro fuel rest enough
  obtain ⟨byte, more, written⟩ := List.exists_cons_of_ne_nil key.write_ne_nil
  have read : Key.read (byte :: (more ++ (content ++ rest))) = some (key, content ++ rest) := by
    rw [← List.cons_append, ← written]
    exact Key.read_write valid (content ++ rest)
  rw [written, List.length_append, List.length_cons] at enough
  obtain ⟨left, rfl⟩ : ∃ left, fuel = left + 1 := ⟨fuel - 1, by omega⟩
  refine ⟨left, by omega, ?_⟩
  rw [written, List.append_assoc, List.cons_append]
  simp [readFields, read, taken]

theorem readMessage (h : Reads merge first a b) : readMessage merge a first = some b := by
  obtain ⟨left, -, same⟩ := h first.length [] (by simp)
  rw [List.append_nil] at same
  rw [Protobuf.readMessage, same]
  cases left <;> rfl

/-- Items that are written one after the other are taken up one after the other. -/
theorem flatMap {β : Type} {write : β → List UInt8} {step : α → β → α} (items : List β)
    (each : ∀ item ∈ items, ∀ a, Reads merge (write item) a (step a item)) (a : α) :
    Reads merge (items.flatMap write) a (items.foldl step a) := by
  induction items generalizing a with
  | nil => exact nothing
  | cons item items ih =>
    have later := ih fun other member => each other (List.mem_cons_of_mem item member)
    exact (each item List.mem_cons_self a).append (later (step a item))

theorem varintField {number value : Nat} (valid : Key.Valid ⟨number, .varint⟩)
    (fits : value < 2 ^ 64) (default : value = 0 → b = a)
    (taken : ∀ bytes rest, Varint.decode bytes = some (value, rest) →
      merge a ⟨number, .varint⟩ bytes = some (b, rest)) :
    Reads merge (varintField number value) a b := by
  rw [Protobuf.varintField]
  split
  · next zero =>
    rw [default zero]
    exact nothing
  · exact field valid fun rest => taken _ rest (Varint.decode_encode fits rest)

theorem delimitedField {number : Nat} {content : List UInt8}
    (valid : Key.Valid ⟨number, .delimited⟩) (fits : content.length < 2 ^ 64)
    (taken : ∀ bytes rest, readDelimited bytes = some (content, rest) →
      merge a ⟨number, .delimited⟩ bytes = some (b, rest)) :
    Reads merge (delimitedField number content) a b := by
  rw [Protobuf.delimitedField, List.append_assoc]
  exact field valid fun rest => taken _ rest (readDelimited_append content rest fits)

theorem bytesField {number : Nat} {content : List UInt8}
    (valid : Key.Valid ⟨number, .delimited⟩) (fits : content.length < 2 ^ 64)
    (default : content = [] → b = a)
    (taken : ∀ bytes rest, readDelimited bytes = some (content, rest) →
      merge a ⟨number, .delimited⟩ bytes = some (b, rest)) :
    Reads merge (bytesField number content) a b := by
  rw [Protobuf.bytesField]
  split
  · next empty =>
    rw [default (List.isEmpty_iff.mp empty)]
    exact nothing
  · exact delimitedField valid fits taken

end Reads

end Reading

end SwitchAgent.Protobuf
