import SwitchAgent.Proofs.Bytes.Codec
import SwitchAgent.Proofs.Telemetry.Words

/-!
# Numbers in cells

A number is read off a buffer as it is read as a bitstring: it does not matter from which end its
bytes are put together, nor in how wide a register. Numbers that were written into cells, one after
the other, are read back in turn, each without what its cell had no room for.
-/

namespace SwitchAgent.Bytes

open SwitchAgent.Telemetry (WordCursor)

namespace Bitstring

/-- Only the low bytes of the number are looked at. -/
theorem decode_eq_mod (width : Nat) (bytes : List UInt8) :
    decode width bytes = value bytes % 256 ^ width := by
  by_cases short : bytes.length ≤ width
  · have whole : takeLast width bytes = bytes := by
      rw [takeLast, Nat.sub_eq_zero_of_le short, List.drop_zero]
    have fits : value bytes < 256 ^ width :=
      Nat.lt_of_lt_of_le (value_lt bytes) (Nat.pow_le_pow_right (by decide) short)
    rw [decode, whole, Nat.mod_eq_of_lt fits]
  · have less : width ≤ bytes.length := by omega
    have last := takeLast_encode less (value bytes)
    rw [encode_value] at last
    rw [decode, last, value_encode]

/-- The low 64 bits of a number stand in its last eight bytes, if it has so many. -/
theorem decode_last_eight (bytes : List UInt8) :
    decode (min bytes.length 8) bytes = value bytes % 2 ^ 64 := by
  rw [decode_eq_mod]
  by_cases short : bytes.length ≤ 8
  · have bounded := value_lt bytes
    have word : 256 ^ bytes.length ≤ 2 ^ 64 := Nat.pow_le_pow_right (by decide) short
    rw [Nat.min_eq_left short, Nat.mod_eq_of_lt bounded,
      Nat.mod_eq_of_lt (Nat.lt_of_lt_of_le bounded word)]
  · rw [Nat.min_eq_right (by omega), show 2 ^ 64 = 256 ^ 8 from rfl]

end Bitstring

/-- What a buffer's number is, said by each of its readers: the bitstring of its last eight bytes, a
word into which every byte is shifted from the right, and a register of 128 bits in which every
byte is shifted to its place, from the last one on. -/
structure ReadAlike (bytes : List UInt8) (n : UInt64) : Prop where
  bitstring : Word.u64.decode (min bytes.length 8) bytes = some n.toNat
  fromFront : n = Telemetry.Word.ofBytes bytes
  fromBack : n.toBitVec = (Register.read (min bytes.length 8) bytes).setWidth 64

theorem readAlike_value (bytes : List UInt8) : ReadAlike bytes (.ofNat (value bytes)) where
  bitstring := by
    have admissible : min bytes.length 8 ≤ Word.u64.bytes := Nat.min_le_right _ 8
    rw [Word.decode, if_pos admissible, Bitstring.decode_last_eight, UInt64.toNat_ofNat']
  fromFront := (Telemetry.Word.ofBytes_eq bytes).symm
  fromBack := by
    apply BitVec.eq_of_toNat_eq
    rw [BitVec.toNat_setWidth, Register.toNat_read (by omega), Bitstring.decode_last_eight,
      UInt64.toNat_toBitVec, UInt64.toNat_ofNat', Nat.mod_mod]

theorem Cursor.peek_readAlike (c : Cursor) (width offset : Nat) :
    Demands (offset + width ≤ c.buffer.length)
      (fun n => ((c.buffer.drop offset).take width).length = width ∧
        ReadAlike ((c.buffer.drop offset).take width) n) (c.peek width offset) := by
  apply (c.slice_demands offset width).map
  rintro bytes inside rfl
  refine ⟨?_, readAlike_value _⟩
  rw [List.length_take, List.length_drop]
  omega

/-- A word of the cursor is the number that its bytes hold. -/
theorem Cursor.takeWord_widened (c : Cursor) {word : Word} (narrow : word.bytes ≤ 8) :
    (c.takeWord word).map (fun taken => (taken.1.setWidth 64, taken.2)) =
      (c.takeNumber word.bytes).map fun taken => (taken.1.toBitVec, taken.2) := by
  rw [takeWord]
  cases read : c.takeNumber word.bytes with
  | error fault => rfl
  | ok taken =>
    obtain ⟨n, c'⟩ := taken
    obtain ⟨number, -⟩ := (c.takeNumber_demands narrow).good_of_ok read
    have bounded : n.toBitVec.toNat < 2 ^ (8 * word.bytes) := by
      have below := numberAt_lt c.buffer word.bytes c.position
      rw [← number, show 256 = 2 ^ 8 from rfl, ← Nat.pow_mul] at below
      exact below
    have kept : (n.toBitVec.setWidth (8 * word.bytes)).setWidth 64 = n.toBitVec := by
      apply BitVec.eq_of_toNat_eq
      rw [BitVec.toNat_setWidth, BitVec.toNat_setWidth, Nat.mod_eq_of_lt bounded,
        Nat.mod_eq_of_lt n.toBitVec.isLt]
    change Except.ok ((n.toBitVec.setWidth (8 * word.bytes)).setWidth 64, c') = _
    rw [kept]
    rfl

theorem Word.bytes_le_eight {word : Word} (other : word ≠ .u128) : word.bytes ≤ 8 := by
  cases word with
  | u128 => exact absurd rfl other
  | _ => decide

/-- A number, and the count of bytes that it is written on. -/
structure Cell where
  width : Nat
  number : UInt64

namespace Cell

def bytes (cell : Cell) : List UInt8 :=
  Bitstring.encode cell.width cell.number.toNat

/-- What there is room for. -/
def kept (cell : Cell) : Nat :=
  cell.number.toNat % 2 ^ (8 * cell.width)

theorem mapM_encode {cells : List Cell} (narrow : ∀ cell ∈ cells, cell.width ≤ 8) :
    cells.mapM (fun cell => Word.u64.encode cell.width cell.number.toNat) =
      some (cells.map bytes) := by
  induction cells with
  | nil => rfl
  | cons cell cells ih =>
    obtain ⟨first, others⟩ := List.forall_mem_cons.mp narrow
    have written : Word.u64.encode cell.width cell.number.toNat = some cell.bytes := if_pos first
    rw [List.mapM_cons, written, ih others]
    rfl

theorem numberAt_bytes (before after : List UInt8) (cell : Cell) :
    numberAt (before ++ (cell.bytes ++ after)) cell.width before.length = cell.kept := by
  have written : cell.bytes.length = cell.width := Bitstring.length_encode _ _
  have here : ((before ++ (cell.bytes ++ after)).drop before.length).take cell.width = cell.bytes := by
    rw [List.drop_left, List.take_left' written]
  rw [numberAt, here, bytes, value_encode, kept, Nat.pow_mul]

end Cell

namespace Cursor

def takeNumbers : List Nat → Cursor → Except Fault (List UInt64 × Cursor)
  | [], c => .ok ([], c)
  | width :: widths, c => do
    let (n, c) ← c.takeNumber width
    let (ns, c) ← takeNumbers widths c
    return (n :: ns, c)

theorem takeNumber_cell {c : Cursor} {before after : List UInt8} {cell : Cell}
    (narrow : cell.width ≤ 8) (buffer : c.buffer = before ++ (cell.bytes ++ after))
    (position : c.position = before.length) :
    ∃ n c', c.takeNumber cell.width = .ok (n, c') ∧ n.toNat = cell.kept ∧
      c'.buffer = c.buffer ∧ c'.position = (before ++ cell.bytes).length := by
  have written : cell.bytes.length = cell.width := Bitstring.length_encode _ _
  have inside : c.position + cell.width ≤ c.buffer.length := by
    rw [buffer, position]
    simp only [List.length_append, written]
    omega
  obtain ⟨⟨n, c'⟩, read, number, same, moved⟩ := (c.takeNumber_demands narrow).met inside
  refine ⟨n, c', read, ?_, same, ?_⟩
  · rw [number, buffer, position, cell.numberAt_bytes]
  · rw [moved, position, List.length_append, written]

theorem takeNumbers_cells {cells : List Cell} (narrow : ∀ cell ∈ cells, cell.width ≤ 8)
    {c : Cursor} {before : List UInt8} (buffer : c.buffer = before ++ cells.flatMap Cell.bytes)
    (position : c.position = before.length) :
    ∃ numbers c', takeNumbers (cells.map Cell.width) c = .ok (numbers, c') ∧
      numbers.map UInt64.toNat = cells.map Cell.kept ∧ c'.remaining = 0 := by
  induction cells generalizing c before with
  | nil =>
    refine ⟨[], c, rfl, rfl, ?_⟩
    rw [remaining, buffer, position]
    simp
  | cons cell cells ih =>
    obtain ⟨first, others⟩ := List.forall_mem_cons.mp narrow
    rw [List.flatMap_cons] at buffer
    obtain ⟨n, c₁, read, number, same, moved⟩ := takeNumber_cell first buffer position
    rw [← List.append_assoc] at buffer
    obtain ⟨numbers, c₂, later, kept, ended⟩ := ih others (same.trans buffer) moved
    refine ⟨n :: numbers, c₂, ?_, ?_, ended⟩
    · rw [List.map_cons, takeNumbers, read]
      change (takeNumbers (cells.map Cell.width) c₁ >>= fun r => pure (n :: r.1, r.2)) = _
      rw [later]
      rfl
    · rw [List.map_cons, List.map_cons, number, kept]

/-- Whatever the buffer, a number is peeked at if and only if all its bytes are inside, and its
readers agree on it; a machine whose sums are words comes to the same end. Cells that were written
one after the other are read back in turn until nothing is left. Nothing is lost of a word when it
is cut to its size. -/
theorem numbers_peeked_as_bitstrings_and_cells_read_back :
    (∀ (c : Cursor) (width offset : Nat),
      Demands (offset + width ≤ c.buffer.length)
        (fun n => ((c.buffer.drop offset).take width).length = width ∧
          ReadAlike ((c.buffer.drop offset).take width) n) (c.peek width offset)) ∧
    (∀ (words : WordCursor) (c : Cursor), words.Matches c → ∀ width offset : UInt64,
      (words.peek width offset).run = some (c.peek width.toNat offset.toNat)) ∧
    (∀ cells : List Cell, (∀ cell ∈ cells, 1 ≤ cell.width ∧ cell.width ≤ 8) →
      ∃ written numbers c',
        cells.mapM (fun cell => Word.u64.encode cell.width cell.number.toNat) = some written ∧
        takeNumbers (cells.map Cell.width) (ofBytes written.flatten) = .ok (numbers, c') ∧
        numbers.map UInt64.toNat =
          cells.map (fun cell => cell.number.toNat % 2 ^ (8 * cell.width)) ∧
        c'.remaining = 0) ∧
    (∀ (c : Cursor) (word : Word), word ≠ .u128 →
      (c.takeWord word).map (fun taken => (taken.1.setWidth 64, taken.2)) =
        (c.takeNumber word.bytes).map fun taken => (taken.1.toBitVec, taken.2)) := by
  refine ⟨peek_readAlike, ?_, ?_, ?_⟩
  · intro words c matching width offset
    exact (matching.peek rfl rfl).run_eq
  · intro cells widths
    have narrow : ∀ cell ∈ cells, cell.width ≤ 8 := fun cell among => (widths cell among).2
    obtain ⟨numbers, c', read, kept, ended⟩ := takeNumbers_cells narrow (c := ofBytes _)
      (List.nil_append _).symm rfl
    exact ⟨cells.map Cell.bytes, numbers, c', Cell.mapM_encode narrow, read, kept, ended⟩
  · intro c word other
    exact c.takeWord_widened (Word.bytes_le_eight other)

/-- The first and the last hold more than there is room for. -/
def threeCells : List Cell :=
  [⟨2, 0x12345⟩, ⟨8, 0xffffffffffffffff⟩, ⟨1, 0xabc⟩]

theorem nine_bytes_peeked_and_three_cells_read_back :
    (∃ n, (ofBytes [1, 2, 3, 4, 5, 6, 7, 8, 9]).peek 9 0 = .ok n ∧ n = 0x0203040506070809) ∧
    WordCursor.Matches ⟨[1, 2, 3, 4], 0⟩ (ofBytes [1, 2, 3, 4]) ∧
    (∃ fault, (WordCursor.peek ⟨[1, 2, 3, 4], 0⟩ 2 0xffffffffffffffff).run =
      some (.error fault)) ∧
    (∀ cell ∈ threeCells, 1 ≤ cell.width ∧ cell.width ≤ 8) ∧
    (∃ numbers c', takeNumbers [2, 8, 1] (ofBytes
        ([0x23, 0x45] ++ List.replicate 8 0xff ++ [0xbc])) = .ok (numbers, c') ∧
      numbers.map UInt64.toNat = [0x2345, 0xffffffffffffffff, 0xbc] ∧ c'.remaining = 0) ∧
    Word.u16 ≠ .u128 ∧
    (∃ c', ((ofBytes [0xab, 0xcd, 0xef]).takeWord .u16).map
      (fun taken => (taken.1.setWidth 64, taken.2)) = .ok (0xabcd#64, c')) := by
  obtain ⟨peeks, onWords, cells, words⟩ := numbers_peeked_as_bitstrings_and_cells_read_back
  have start : WordCursor.Matches ⟨[1, 2, 3, 4], 0⟩ (ofBytes [1, 2, 3, 4]) :=
    WordCursor.start_matches (by decide)
  have widths : ∀ cell ∈ threeCells, 1 ≤ cell.width ∧ cell.width ≤ 8 := by decide
  refine ⟨?_, start, ?_, widths, ?_, by decide, ?_⟩
  · obtain ⟨n, read, -, alike⟩ := (peeks (ofBytes [1, 2, 3, 4, 5, 6, 7, 8, 9]) 9 0).met (by decide)
    exact ⟨n, read, alike.fromFront.trans (by decide)⟩
  · obtain ⟨fault, failed, -⟩ := (peeks (ofBytes [1, 2, 3, 4]) 2 0xffffffffffffffff).missed
      (by decide)
    refine ⟨fault, (onWords _ _ start 2 0xffffffffffffffff).trans ?_⟩
    exact congrArg some failed
  · obtain ⟨written, numbers, c', wrote, read, kept, ended⟩ := cells threeCells widths
    have bytes : [[0x23, 0x45], List.replicate 8 0xff, [0xbc]] = written :=
      Option.some.inj (Eq.trans (by decide) wrote)
    subst bytes
    exact ⟨numbers, c', read, kept.trans (by decide), ended⟩
  · exact ⟨_, words _ .u16 (by decide)⟩

end Cursor

end SwitchAgent.Bytes
