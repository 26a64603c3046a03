import SwitchAgent.Fault
import SwitchAgent.Bytes.Bitstring

/-!
# Checked reading

A cursor stands somewhere in a buffer and never beyond its end. Every reading says which
bytes it wants; one that wants bytes the buffer lacks fails and leaves the cursor alone.
-/

namespace SwitchAgent.Bytes

structure Cursor where
  buffer : List UInt8
  position : Nat
  inside : position ≤ buffer.length := by omega

namespace Cursor

def ofBytes (buffer : List UInt8) : Cursor where
  buffer := buffer
  position := 0
  inside := Nat.zero_le _

def remaining (c : Cursor) : Nat :=
  c.buffer.length - c.position

def seek (c : Cursor) (position : Nat) : Except Fault Cursor :=
  if h : position ≤ c.buffer.length then .ok ⟨c.buffer, position, h⟩
  else .error (.seekBeyond position c.buffer.length)

/-- The bytes at an offset, wherever the cursor stands. -/
def slice (c : Cursor) (offset length : Nat) : Except Fault (List UInt8) :=
  if offset + length ≤ c.buffer.length then .ok ((c.buffer.drop offset).take length)
  else .error (.underflow length offset c.buffer.length)

def take (c : Cursor) (length : Nat) : Except Fault (List UInt8 × Cursor) :=
  if h : c.position + length ≤ c.buffer.length then
    .ok ((c.buffer.drop c.position).take length, ⟨c.buffer, c.position + length, h⟩)
  else .error (.underflow length c.position c.buffer.length)

/-- The number at an offset. Only its low 64 bits are kept. -/
def peek (c : Cursor) (width offset : Nat) : Except Fault UInt64 :=
  return UInt64.ofNat (value (← c.slice offset width))

def takeNumber (c : Cursor) (width : Nat) : Except Fault (UInt64 × Cursor) := do
  let (bytes, c) ← c.take width
  return (UInt64.ofNat (value bytes), c)

/-- A word from as many bytes as it has. -/
def takeWord (c : Cursor) (word : Word) : Except Fault (BitVec (8 * word.bytes) × Cursor) := do
  let (n, c) ← c.takeNumber word.bytes
  return (n.toBitVec.setWidth _, c)

end Cursor

end SwitchAgent.Bytes
