/-!
# Text as bytes

UTF-8 in both directions, over lists of bytes. The generalized form also gives
three bytes to a lone surrogate, which no text holds.
-/

namespace SwitchAgent.Text.Utf8

def encode (s : String) : List UInt8 :=
  s.toList.flatMap String.utf8EncodeChar

def decode (bytes : List UInt8) : Option String :=
  String.fromUTF8? bytes.toByteArray

/-- The three bytes of a code point in the surrogate range. -/
def encodeSurrogate (unit : Nat) : List UInt8 :=
  [UInt8.ofNat (0xe0 + unit / 0x1000), UInt8.ofNat (0x80 + unit / 0x40 % 0x40),
    UInt8.ofNat (0x80 + unit % 0x40)]

end SwitchAgent.Text.Utf8
