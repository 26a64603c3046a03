/-!
# Varints

Base 128 digits, the least significant first; the high bit says that more follow. A varint has
64 bits at most, so of a tenth byte only the lowest bit may be set.
-/

namespace SwitchAgent.Protobuf.Varint

def encode (n : Nat) : List UInt8 :=
  if n < 128 then [UInt8.ofNat n]
  else UInt8.ofNat (n % 128 + 128) :: encode (n / 128)

/-- Read a varint of at most `more + 1` bytes. -/
def decodeAt : Nat → List UInt8 → Option (Nat × List UInt8)
  | _, [] => none
  | 0, b :: rest => if b.toNat < 2 then some (b.toNat, rest) else none
  | more + 1, b :: rest =>
    if b.toNat < 128 then some (b.toNat, rest)
    else (decodeAt more rest).map fun (n, rest) => (b.toNat % 128 + 128 * n, rest)

def decode (bytes : List UInt8) : Option (Nat × List UInt8) :=
  decodeAt 9 bytes

end SwitchAgent.Protobuf.Varint
