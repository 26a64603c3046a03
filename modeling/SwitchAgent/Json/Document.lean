import SwitchAgent.Text.Utf8

/-!
# Documents

A document is JSON text without its layout. It still holds what later readers judge in
different ways: repeated members, escapes of lone surrogates, raw controls in strings, and
numbers out of range.
-/

namespace SwitchAgent.Json

/-- What stands between the quotes of a string, piece by piece. -/
inductive Glyph where
  | char (c : Char)
  | rawControl (c : Char)
  | loneSurrogate (unit : Nat)
  deriving DecidableEq, Repr

def Glyph.bytes : Glyph → List UInt8
  | .char c => String.utf8EncodeChar c
  | .rawControl c => String.utf8EncodeChar c
  | .loneSurrogate unit => Text.Utf8.encodeSurrogate unit

abbrev Literal := List Glyph

namespace Literal

def ofString (s : String) : Literal :=
  s.toList.map .char

def chars? : Literal → Option (List Char)
  | [] => some []
  | .char c :: rest => (chars? rest).map (c :: ·)
  | _ :: _ => none

/-- The text, if it is one: neither raw controls nor lone surrogates are allowed. -/
def text? (l : Literal) : Option String :=
  (chars? l).map String.ofList

/-- A string that stands for bytes may hold anything. -/
def bytes (l : Literal) : List UInt8 :=
  l.flatMap Glyph.bytes

/-- Raw controls are refused even where nobody looks at the text. -/
def isSkippable (l : Literal) : Bool :=
  l.all fun | .rawControl _ => false | _ => true

end Literal

/-- The number `significand * 10 ^ exponent`, with its sign. Digits that 64 bits do not hold are
left out of the significand. -/
structure Numeral where
  negative : Bool
  significand : Nat
  exponent : Int
  /-- Neither a fraction nor an exponent is written, and no digit is left out. -/
  integral : Bool
  deriving DecidableEq, Repr

/-- The nearest number of 53 significant bits. Of two that are as near the even one is taken. -/
def roundToDouble (n : Nat) : Nat :=
  let unit := 1 <<< (n.log2 + 1 - 53)
  let count := n / unit
  let rest := n % unit
  if 2 * rest < unit ∨ (2 * rest = unit ∧ count % 2 = 0) then count * unit else (count + 1) * unit

namespace Numeral

def ofInt (n : Int) : Numeral :=
  ⟨n < 0, n.natAbs, 0, true⟩

/-- The numerals that stand for integers. A negative zero does not, nor does what has more
than 64 bits. -/
def integer? (n : Numeral) : Option Int :=
  if !n.integral then none
  else if n.negative then
    if 0 < n.significand ∧ n.significand ≤ 0x8000000000000000 then some (-(n.significand : Int)) else none
  else if n.significand < UInt64.size then some n.significand else none

/-- From here on numbers round to infinity in double precision. -/
def overflow : Nat :=
  1 <<< 1024 - 1 <<< 970

/-- Whether the number is finite in double precision, in which first the significand and the
power of ten are rounded and then their product. No power beyond the 308th is finite. -/
def isFinite (n : Numeral) : Bool :=
  match n.exponent with
  | .ofNat e =>
    n.significand == 0 ||
      (e ≤ 308 && roundToDouble n.significand * roundToDouble (Nat.pow 10 e) < overflow)
  | .negSucc _ => true

end Numeral

inductive Document where
  | null
  | bool (value : Bool)
  | number (value : Numeral)
  | string (value : Literal)
  | array (items : List Document)
  | object (members : List (Literal × Document))
  deriving BEq, Repr, Inhabited

mutual

/-- Whether a reader that does not want the document may pass over it. -/
def Document.isSkippable : Document → Bool
  | .string l => l.isSkippable
  | .array items => Document.allSkippable items
  | .object members => Document.membersSkippable members
  | _ => true
termination_by structural d => d

def Document.allSkippable : List Document → Bool
  | [] => true
  | d :: ds => d.isSkippable && Document.allSkippable ds
termination_by structural ds => ds

def Document.membersSkippable : List (Literal × Document) → Bool
  | [] => true
  | (key, d) :: ms => key.isSkippable && d.isSkippable && Document.membersSkippable ms
termination_by structural ms => ms

end

end SwitchAgent.Json
