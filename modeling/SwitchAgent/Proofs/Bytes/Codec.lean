import Mathlib.Algebra.BigOperators.Group.Finset.Basic
import Mathlib.Data.List.GetD
import SwitchAgent.Proofs.Bytes.Numbers

/-!
# The laws of bitstrings

A word is written on exactly as many bytes as are asked for, and of the bytes that are read only the
last ones count. They are the digits of the number, and the same digits come of shifting and cutting
in a register of 128 bits, out of which nothing is ever shifted.
-/

namespace SwitchAgent.Bytes

open Finset (range)

/-- The digit at a place, the last byte being at place 0. Missing bytes are zero. -/
def digitAt (bytes : List UInt8) (place : Nat) : Nat :=
  (bytes.reverse.getD place 0).toNat

theorem digitAt_append_of_lt (front bytes : List UInt8) {place : Nat}
    (inside : place < bytes.length) : digitAt (front ++ bytes) place = digitAt bytes place := by
  have inside' : place < bytes.reverse.length := by
    rwa [List.length_reverse]
  rw [digitAt, digitAt, List.reverse_append, List.getD_append _ _ _ _ inside']

theorem digitAt_append_of_le (front bytes : List UInt8) {place : Nat}
    (beyond : bytes.length ≤ place) :
    digitAt (front ++ bytes) place = digitAt front (place - bytes.length) := by
  have beyond' : bytes.reverse.length ≤ place := by
    rwa [List.length_reverse]
  rw [digitAt, digitAt, List.reverse_append, List.getD_append_right _ _ _ _ beyond',
    List.length_reverse]

theorem digitAt_zeros (count place : Nat) : digitAt (List.replicate count 0) place = 0 := by
  rw [digitAt, List.reverse_replicate, List.getD_eq_getElem?_getD,
    List.getElem?_getD_replicate_default_eq]
  rfl

theorem digitAt_beyond {bytes : List UInt8} {place : Nat} (beyond : bytes.length ≤ place) :
    digitAt bytes place = 0 := by
  have none := digitAt_append_of_le [] bytes beyond
  rwa [List.nil_append, ← List.replicate_zero, digitAt_zeros] at none

/-- Zeros in front are the digits that were missing. -/
theorem digitAt_zeros_append (count : Nat) (bytes : List UInt8) (place : Nat) :
    digitAt (List.replicate count 0 ++ bytes) place = digitAt bytes place := by
  by_cases inside : place < bytes.length
  · exact digitAt_append_of_lt _ bytes inside
  · have beyond : bytes.length ≤ place := by omega
    rw [digitAt_append_of_le _ bytes beyond, digitAt_zeros, digitAt_beyond beyond]

/-- Positional notation. -/
theorem value_eq_sum (bytes : List UInt8) :
    value bytes = ∑ place ∈ range bytes.length, digitAt bytes place * 256 ^ place := by
  induction bytes with
  | nil => rfl
  | cons b bytes ih =>
    have front : value (b :: bytes) = b.toNat * 256 ^ bytes.length + value bytes := by
      have split := value_append [b] bytes
      rwa [show value [b] = b.toNat from Nat.zero_add _] at split
    have first : digitAt (b :: bytes) bytes.length = b.toNat := by
      have here := digitAt_append_of_le [b] bytes (Nat.le_refl _)
      rwa [Nat.sub_self] at here
    have others : ∑ place ∈ range bytes.length, digitAt (b :: bytes) place * 256 ^ place =
        ∑ place ∈ range bytes.length, digitAt bytes place * 256 ^ place := by
      refine Finset.sum_congr rfl fun place among => ?_
      have inside : place < bytes.length := Finset.mem_range.mp among
      rw [← digitAt_append_of_lt [b] bytes inside]
      rfl
    rw [List.length_cons, Finset.sum_range_succ, first, others, ← ih, front]
    omega

/-- The last bytes, with zeros in front of them where there are too few. -/
def fitted (width : Nat) (bytes : List UInt8) : List UInt8 :=
  List.replicate (width - bytes.length) 0 ++ takeLast width bytes

theorem length_takeLast (width : Nat) (bytes : List UInt8) :
    (takeLast width bytes).length = min width bytes.length := by
  rw [takeLast, List.length_drop]
  omega

theorem length_fitted (width : Nat) (bytes : List UInt8) : (fitted width bytes).length = width := by
  rw [fitted, List.length_append, List.length_replicate, length_takeLast]
  omega

theorem value_zeros (count : Nat) : value (List.replicate count 0) = 0 := by
  rw [value_eq_sum]
  refine Finset.sum_eq_zero fun place _ => ?_
  rw [digitAt_zeros, Nat.zero_mul]

namespace Bitstring

theorem value_fitted (width : Nat) (bytes : List UInt8) :
    value (fitted width bytes) = decode width bytes := by
  rw [fitted, value_append, value_zeros, Nat.zero_mul, Nat.zero_add]
  rfl

theorem encode_decode_fitted (width : Nat) (bytes : List UInt8) :
    encode width (decode width bytes) = fitted width bytes := by
  have whole := encode_value (fitted width bytes)
  rwa [length_fitted, value_fitted] at whole

theorem decode_encode_mod (width n : Nat) : decode width (encode width n) = n % 256 ^ width := by
  have whole : takeLast width (encode width n) = encode width n := by
    rw [takeLast, length_encode, Nat.sub_self, List.drop_zero]
  rw [decode, whole, value_encode]

theorem decode_lt (width : Nat) (bytes : List UInt8) : decode width bytes < 256 ^ width := by
  have bounded := value_lt (fitted width bytes)
  rwa [length_fitted, value_fitted] at bounded

theorem digitAt_fitted {width place : Nat} (inside : place < width) (bytes : List UInt8) :
    digitAt (fitted width bytes) place = digitAt bytes place := by
  rw [fitted, digitAt_zeros_append]
  by_cases short : bytes.length ≤ width
  · rw [takeLast, Nat.sub_eq_zero_of_le short, List.drop_zero]
  · have cut := List.take_append_drop (bytes.length - width) bytes
    have within : place < (takeLast width bytes).length := by
      rw [length_takeLast]
      omega
    have behind := digitAt_append_of_lt (bytes.take (bytes.length - width)) _ within
    rw [takeLast] at behind ⊢
    rw [← behind, cut]

theorem decode_eq_sum (width : Nat) (bytes : List UInt8) :
    decode width bytes = ∑ place ∈ range width, digitAt bytes place * 256 ^ place := by
  rw [← value_fitted, value_eq_sum, length_fitted]
  refine Finset.sum_congr rfl fun place among => ?_
  rw [digitAt_fitted (Finset.mem_range.mp among)]

theorem decode_append_of_le (front : List UInt8) {width : Nat} {bytes : List UInt8}
    (enough : width ≤ bytes.length) : decode width (front ++ bytes) = decode width bytes := by
  rw [decode_eq_sum, decode_eq_sum]
  refine Finset.sum_congr rfl fun place among => ?_
  have below : place < width := Finset.mem_range.mp among
  rw [digitAt_append_of_lt front bytes (by omega)]

theorem decode_zeros_append (width count : Nat) (bytes : List UInt8) :
    decode width (List.replicate count 0 ++ bytes) = decode width bytes := by
  rw [decode_eq_sum, decode_eq_sum]
  refine Finset.sum_congr rfl fun place _ => ?_
  rw [digitAt_zeros_append]

/-- The high bytes of a number stand in front of its low ones. -/
theorem encode_add (high low n : Nat) :
    encode (high + low) n = encode high (n / 256 ^ low) ++ encode low n := by
  induction low generalizing n with
  | zero => simp [encode]
  | succ low ih =>
    have quotient : n / 256 / 256 ^ low = n / 256 ^ (low + 1) := by
      rw [Nat.div_div_eq_div_mul, Nat.pow_succ, Nat.mul_comm]
    rw [← Nat.add_assoc, encode, ih, encode, quotient, List.append_assoc]

theorem takeLast_encode {width wider : Nat} (less : width ≤ wider) (n : Nat) :
    takeLast width (encode wider n) = encode width n := by
  obtain ⟨high, rfl⟩ := Nat.exists_eq_add_of_le' less
  have front := length_encode high (n / 256 ^ width)
  rw [takeLast, length_encode, Nat.add_sub_cancel, encode_add, List.drop_left' front]

end Bitstring

/-- As wide as the widest word. -/
abbrev Register := BitVec 128

namespace Register

/-- Every byte is shifted down to the lowest place and cut off there. -/
def write (width : Nat) (n : Register) : List UInt8 :=
  (List.range width).map fun i => .ofBitVec ((n >>> (8 * (width - i - 1))).setWidth 8)

/-- Every byte is shifted up to its place, from the last one on. -/
def gather (little : List UInt8) : Register :=
  little.zipIdx.foldl (fun (n : Register) (byte : UInt8 × Nat) =>
    n ||| byte.1.toBitVec.setWidth 128 <<< (8 * byte.2)) 0

def read (width : Nat) (bytes : List UInt8) : Register :=
  gather (bytes.reverse.take width)

theorem write_eq (width : Nat) (n : Register) : write width n = Bitstring.encode width n.toNat := by
  induction width generalizing n with
  | zero => rfl
  | succ width ih =>
    have last : UInt8.ofBitVec ((n >>> (8 * (width + 1 - width - 1))).setWidth 8) =
        UInt8.ofNat n.toNat := by
      rw [show 8 * (width + 1 - width - 1) = 0 by omega, BitVec.ushiftRight_zero,
        ← UInt8.toNat_inj]
      simp
    have others : (List.range width).map (fun i =>
        UInt8.ofBitVec ((n >>> (8 * (width + 1 - i - 1))).setWidth 8)) = write width (n >>> 8) := by
      refine List.map_congr_left fun i among => ?_
      have below : i < width := List.mem_range.mp among
      rw [← BitVec.shiftRight_add, show 8 + 8 * (width - i - 1) = 8 * (width + 1 - i - 1) by omega]
    have quotient : (n >>> 8).toNat = n.toNat / 256 := by
      rw [BitVec.toNat_ushiftRight, Nat.shiftRight_eq_div_pow]
    rw [write, List.range_succ, List.map_append, List.map_singleton, others, last, ih, quotient]
    rfl

/-- With sixteen bytes at most, nothing is shifted out, and no two bytes meet. -/
theorem toNat_gather {little : List UInt8} (few : little.length ≤ 16) :
    (gather little).toNat = value little.reverse := by
  induction little using List.reverseRecOn with
  | nil => rfl
  | append_singleton little b ih =>
    rw [List.length_append, List.length_singleton] at few
    have before := ih (by omega)
    have below : (gather little).toNat < 2 ^ (8 * little.length) := by
      have bounded := value_lt little.reverse
      rw [List.length_reverse, show 256 = 2 ^ 8 from rfl, ← Nat.pow_mul] at bounded
      rwa [before]
    have stays : b.toNat <<< (8 * little.length) < 2 ^ 128 := by
      rw [Nat.shiftLeft_eq]
      calc b.toNat * 2 ^ (8 * little.length)
          < 2 ^ 8 * 2 ^ (8 * little.length) :=
            Nat.mul_lt_mul_of_pos_right b.toNat_lt (Nat.two_pow_pos _)
        _ = 2 ^ (8 + 8 * little.length) := (Nat.pow_add 2 _ _).symm
        _ ≤ 2 ^ 128 := Nat.pow_le_pow_right (by decide) (by omega)
    have step : gather (little ++ [b]) =
        gather little ||| b.toBitVec.setWidth 128 <<< (8 * little.length) := by
      simp [gather, List.zipIdx_append]
    have shifted : (b.toBitVec.setWidth 128 <<< (8 * little.length)).toNat =
        b.toNat <<< (8 * little.length) := by
      have narrow : b.toNat < 2 ^ 128 := Nat.lt_trans b.toNat_lt (by decide)
      rw [BitVec.toNat_shiftLeft, BitVec.toNat_setWidth, UInt8.toNat_toBitVec,
        Nat.mod_eq_of_lt narrow, Nat.mod_eq_of_lt stays]
    have front := value_append [b] little.reverse
    rw [show value [b] = b.toNat from Nat.zero_add _, List.length_reverse,
      show 256 = 2 ^ 8 from rfl, ← Nat.pow_mul] at front
    rw [step, BitVec.toNat_or, shifted, Nat.or_comm, ← Nat.shiftLeft_add_eq_or_of_lt below, before,
      List.reverse_append, Nat.shiftLeft_eq]
    exact front.symm

theorem toNat_read {width : Nat} (narrow : width ≤ 16) (bytes : List UInt8) :
    (read width bytes).toNat = Bitstring.decode width bytes := by
  have few : (bytes.reverse.take width).length ≤ 16 := by
    rw [List.length_take]
    omega
  rw [read, toNat_gather few, List.reverse_take, List.reverse_reverse, List.length_reverse]
  rfl

end Register

namespace Word

theorem bytes_le (word : Word) : word.bytes ≤ 16 := by
  cases word <;> decide

theorem toNat_widened {word : Word} (v : BitVec (8 * word.bytes)) :
    (v.setWidth 128).toNat = v.toNat := by
  have narrow := word.bytes_le
  exact BitVec.toNat_setWidth_of_le (by omega)

/-- Whatever the word, the width and the bytes: a word is written on exactly this width, as it is in
a register, and read back but for what does not fit, and a wider bitstring of it ends with a narrower
one. What is read of any bytes is a word, the number whose digits are the last bytes, as it is in a
register; written again it is these bytes, and neither bytes in front of enough of them nor zeros in
front of any have a part in it. -/
theorem written_on_width_and_read_from_last_bytes {word : Word} {width : Nat}
    (admissible : width ≤ word.bytes) :
    (∀ v : BitVec (8 * word.bytes), ∃ written,
      word.encode width v.toNat = some written ∧
      written = Register.write width (v.setWidth 128) ∧
      written.length = width ∧
      word.decode width written = some (v.toNat % 2 ^ (8 * width)) ∧
      ∀ wider, width ≤ wider → wider ≤ word.bytes → ∃ longer,
        word.encode wider v.toNat = some longer ∧ takeLast width longer = written) ∧
    ∀ bytes : List UInt8, ∃ v : BitVec (8 * word.bytes),
      word.decode width bytes = some v.toNat ∧
      v = (Register.read width bytes).setWidth (8 * word.bytes) ∧
      v.toNat = ∑ place ∈ range width, digitAt bytes place * 256 ^ place ∧
      word.encode width v.toNat = some (fitted width bytes) ∧
      (∀ front, width ≤ bytes.length → word.decode width (front ++ bytes) = some v.toNat) ∧
      ∀ count, word.decode width (List.replicate count 0 ++ bytes) = some v.toNat := by
  have narrow := word.bytes_le
  have encodes (n : Nat) : word.encode width n = some (Bitstring.encode width n) :=
    if_pos admissible
  have decodes (bytes : List UInt8) :
      word.decode width bytes = some (Bitstring.decode width bytes) := if_pos admissible
  constructor
  · intro v
    refine ⟨Bitstring.encode width v.toNat, encodes _, ?_, Bitstring.length_encode _ _, ?_, ?_⟩
    · rw [Register.write_eq, toNat_widened]
    · rw [decodes, Bitstring.decode_encode_mod, Nat.pow_mul]
    · intro wider less admissible'
      exact ⟨_, if_pos admissible', Bitstring.takeLast_encode less _⟩
  · intro bytes
    have fits : Bitstring.decode width bytes < 2 ^ (8 * word.bytes) := by
      have bounded := Bitstring.decode_lt width bytes
      rw [show 256 = 2 ^ 8 from rfl, ← Nat.pow_mul] at bounded
      exact Nat.lt_of_lt_of_le bounded (Nat.pow_le_pow_right (by decide) (by omega))
    have number : ((Register.read width bytes).setWidth (8 * word.bytes)).toNat =
        Bitstring.decode width bytes := by
      rw [BitVec.toNat_setWidth, Register.toNat_read (by omega), Nat.mod_eq_of_lt fits]
    refine ⟨_, ?_, rfl, ?_, ?_, ?_, ?_⟩
    · rw [decodes, number]
    · rw [number, Bitstring.decode_eq_sum]
    · rw [number, encodes, Bitstring.encode_decode_fitted]
    · intro front enough
      rw [decodes, number, Bitstring.decode_append_of_le front enough]
    · intro count
      rw [decodes, number, Bitstring.decode_zeros_append]

theorem six_bytes_of_word_written_and_two_read :
    6 ≤ u64.bytes ∧
    u64.encode 6 0x0102030405060708 = some [3, 4, 5, 6, 7, 8] ∧
    u64.decode 6 [3, 4, 5, 6, 7, 8] = some 0x030405060708 ∧
    u64.decode 6 [0xab, 0xcd] = some 0xabcd ∧
    u64.encode 6 0xabcd = some [0, 0, 0, 0, 0xab, 0xcd] := by
  have admissible : 6 ≤ u64.bytes := by decide
  obtain ⟨writes, reads⟩ := written_on_width_and_read_from_last_bytes admissible
  obtain ⟨written, wrote, shifted, -, back, -⟩ := writes 0x0102030405060708
  obtain ⟨v, read, -, digits, again, -⟩ := reads [0xab, 0xcd]
  have bytes : written = [3, 4, 5, 6, 7, 8] := shifted.trans (by decide)
  have number : v.toNat = 0xabcd := digits.trans (by decide)
  rw [bytes] at wrote back
  rw [number] at read again
  exact ⟨admissible, wrote, back, read, again⟩

end Word

end SwitchAgent.Bytes
