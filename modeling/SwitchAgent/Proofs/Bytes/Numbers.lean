import SwitchAgent.Proofs.Bytes.Demand

/-!
# Numbers and where they stand

A number that was written is read back wherever it was put, as long as it fits in its bytes. Other
bytes of the buffer do not matter, and each of its own does.
-/

namespace SwitchAgent.Bytes

theorem value_append (first second : List UInt8) :
    value (first ++ second) = value first * 256 ^ second.length + value second := by
  induction second using List.reverseRecOn with
  | nil => simp [value]
  | append_singleton second b ih =>
    rw [← List.append_assoc, value_append_singleton, ih, value_append_singleton,
      List.length_append, List.length_singleton, Nat.pow_succ, Nat.add_mul, Nat.mul_assoc,
      Nat.add_assoc]

/-- Writing keeps what fits. -/
theorem value_encode (width n : Nat) : value (Bitstring.encode width n) = n % 256 ^ width := by
  induction width generalizing n with
  | zero => exact (Nat.mod_one n).symm
  | succ width ih =>
    have digits : n % 256 ^ (width + 1) = n % 256 + 256 * (n / 256 % 256 ^ width) := by
      rw [Nat.pow_succ, Nat.mul_comm, Nat.mod_mul]
    rw [Bitstring.encode, value_append_singleton, ih, UInt8.toNat_ofNat', digits]
    omega

theorem encode_value (bytes : List UInt8) : Bitstring.encode bytes.length (value bytes) = bytes := by
  induction bytes using List.reverseRecOn with
  | nil => rfl
  | append_singleton bytes b ih =>
    have above : (value bytes * 256 + b.toNat) / 256 = value bytes := by
      have small := b.toNat_lt
      omega
    have last : UInt8.ofNat (value bytes * 256 + b.toNat) = b := by
      rw [← UInt8.toNat_inj, UInt8.toNat_ofNat']
      have small := b.toNat_lt
      omega
    rw [List.length_append, List.length_singleton, value_append_singleton, Bitstring.encode, above,
      last, ih]

theorem eq_of_value_eq {one other : List UInt8} (width : one.length = other.length)
    (same : value one = value other) : one = other := by
  have first := encode_value one
  have second := encode_value other
  rw [← first, ← second, width, same]

/-- Numbers are written alike where they differ only in what is dropped. -/
theorem encode_eq_encode_iff {width n m : Nat} :
    Bitstring.encode width n = Bitstring.encode width m ↔ n % 256 ^ width = m % 256 ^ width := by
  constructor
  · intro same
    have values := congrArg value same
    rwa [value_encode, value_encode] at values
  · intro same
    refine eq_of_value_eq ?_ ?_
    · rw [Bitstring.length_encode, Bitstring.length_encode]
    · rw [value_encode, value_encode, same]

/-- Bytes of the right width are written as they were read. -/
theorem encode_decode {bytes : List UInt8} {width : Nat} (exact : bytes.length = width) :
    Bitstring.encode width (Bitstring.decode width bytes) = bytes := by
  subst exact
  have whole : takeLast bytes.length bytes = bytes := by
    rw [takeLast, Nat.sub_self, List.drop_zero]
  rw [Bitstring.decode, whole, encode_value]

theorem numberAt_append_left (first second : List UInt8) {width offset : Nat}
    (inside : offset + width ≤ first.length) :
    numberAt (first ++ second) width offset = numberAt first width offset := by
  rw [numberAt, numberAt, List.drop_append_of_le_length (by omega),
    List.take_append_of_le_length (by rw [List.length_drop]; omega)]

theorem numberAt_append_right (first second : List UInt8) (width offset : Nat) :
    numberAt (first ++ second) width (first.length + offset) = numberAt second width offset := by
  rw [numberAt, numberAt, List.drop_length_add_append]

theorem numberAt_whole (bytes : List UInt8) : numberAt bytes bytes.length 0 = value bytes := by
  rw [numberAt, List.drop_zero, List.take_length]

/-- A number stands where the bytes before it end. -/
theorem numberAt_encode (before after : List UInt8) {width n : Nat} (fits : n < 256 ^ width) :
    numberAt (before ++ (Bitstring.encode width n ++ after)) width before.length = n := by
  have whole := numberAt_whole (Bitstring.encode width n)
  rw [Bitstring.length_encode, value_encode, Nat.mod_eq_of_lt fits] at whole
  have here := numberAt_append_right before (Bitstring.encode width n ++ after) width 0
  rw [Nat.add_zero] at here
  have inside : 0 + width ≤ (Bitstring.encode width n).length := by
    rw [Bitstring.length_encode]
    omega
  rw [here, numberAt_append_left _ _ inside, whole]

theorem numberAt_eq_of_take {one other : List UInt8} {stop : Nat}
    (same : one.take stop = other.take stop) {width offset : Nat}
    (inside : offset + width ≤ stop) : numberAt one width offset = numberAt other width offset := by
  have cut (buffer : List UInt8) :
      ((buffer.take stop).drop offset).take width = (buffer.drop offset).take width := by
    rw [List.drop_take, List.take_take, Nat.min_eq_left (by omega)]
  rw [numberAt, numberAt, ← cut one, ← cut other, same]

/-- The low bytes of a number stand behind its high ones. -/
theorem numberAt_mod {buffer : List UInt8} {high width offset : Nat}
    (inside : offset + high + width ≤ buffer.length) :
    numberAt buffer (high + width) offset % 256 ^ width = numberAt buffer width (offset + high) := by
  have bounded := numberAt_lt buffer width (offset + high)
  have whole : ((buffer.drop (offset + high)).take width).length = width := by
    rw [List.length_take, List.length_drop]
    omega
  rw [numberAt, List.take_add, value_append, List.drop_drop, whole]
  exact Nat.mul_add_mod_of_lt bounded

/-- A byte shows in the number that it belongs to. -/
theorem numberAt_set_ne {buffer : List UInt8} {width offset place : Nat} {b : UInt8}
    (behind : offset ≤ place) (before : place < offset + width) (inside : place < buffer.length)
    (new : b ≠ buffer[place]) :
    numberAt (buffer.set place b) width offset ≠ numberAt buffer width offset := by
  intro same
  have bytes := eq_of_value_eq (by simp) same
  have here := congrArg (fun bytes => bytes[place - offset]?) bytes
  simp only [List.getElem?_take, List.getElem?_drop, Nat.add_sub_of_le behind,
    if_pos (show place - offset < width by omega), List.getElem?_set_self inside,
    List.getElem?_eq_getElem inside, Option.some.injEq] at here
  exact new here

end SwitchAgent.Bytes
