/-!
# Big-endian bitstrings

A number stands on a fixed count of bytes, the most significant first. Writing drops what
does not fit; reading looks at the last bytes only and takes missing ones for zero.
-/

namespace SwitchAgent.Bytes

/-- The number whose base 256 digits the bytes are. -/
def value (bytes : List UInt8) : Nat :=
  bytes.foldl (fun n b => n * 256 + b.toNat) 0

/-- The last bytes of a list, all of it if it is short. -/
def takeLast (width : Nat) (bytes : List UInt8) : List UInt8 :=
  bytes.drop (bytes.length - width)

namespace Bitstring

def encode : Nat → Nat → List UInt8
  | 0, _ => []
  | width + 1, n => encode width (n / 256) ++ [UInt8.ofNat n]

def decode (width : Nat) (bytes : List UInt8) : Nat :=
  value (takeLast width bytes)

end Bitstring

/-- Unsigned words, by their count of bytes. -/
inductive Word where
  | u8
  | u16
  | u32
  | u64
  | u128
  deriving DecidableEq, Repr

namespace Word

def bytes : Word → Nat
  | u8 => 1
  | u16 => 2
  | u32 => 4
  | u64 => 8
  | u128 => 16

/-- A bitstring must not be wider than the word that holds its number. -/
def encode (word : Word) (width n : Nat) : Option (List UInt8) :=
  if width ≤ word.bytes then some (Bitstring.encode width n) else none

def decode (word : Word) (width : Nat) (bytes : List UInt8) : Option Nat :=
  if width ≤ word.bytes then some (Bitstring.decode width bytes) else none

end Word

theorem Bitstring.length_encode (width n : Nat) : (Bitstring.encode width n).length = width := by
  induction width generalizing n with
  | zero => rfl
  | succ width ih => simp [Bitstring.encode, ih]

theorem value_append_singleton (bytes : List UInt8) (b : UInt8) :
    value (bytes ++ [b]) = value bytes * 256 + b.toNat := by
  simp [value]

end SwitchAgent.Bytes
