import SwitchAgent.Text.Numeral

/-!
# Decimal fractions

Numbers with a fraction and a power of ten, rounded to double precision. The longest sums of
digits and power that matter are known, so no power of ten is ever taken that is out of reach.
-/

namespace SwitchAgent.Text

structure Decimal where
  negative : Bool
  digits : Nat
  exponent : Int
  deriving DecidableEq, Repr

def infinity : Float :=
  1.0 / 0.0

namespace Decimal

/-- Beyond this place every number is infinite or zero in double precision. -/
def reach : Int := 400

/-- The double nearest to the number without its sign. -/
def magnitude (d : Decimal) : Float :=
  let place := (Nat.toDigits 10 d.digits).length + d.exponent
  if d.digits = 0 ∨ place < -reach then 0.0
  else if reach < place then infinity
  else match d.exponent with
    | .ofNat e => Float.ofScientific d.digits false e
    | .negSucc e => Float.ofScientific d.digits true (e + 1)

def toFloat (d : Decimal) : Float :=
  if d.negative then -d.magnitude else d.magnitude

end Decimal

/-- The number that the digits before and after a point are. -/
def decimalOf (negative : Bool) (whole places : List Char) (exponent : Int) : Decimal :=
  ⟨negative, Nat.ofDigitChars 10 (whole ++ places) 0, exponent - places.length⟩

def lower (cs : List Char) : List Char :=
  cs.map Char.toLower

/-- A sign, if there is one, and what follows it. -/
def cutSign : List Char → Bool × List Char
  | '-' :: cs => (true, cs)
  | '+' :: cs => (false, cs)
  | cs => (false, cs)

/-- A power of ten that ends the text. -/
def readPower : List Char → Option Int
  | [] => some 0
  | c :: cs =>
    if c = 'e' ∨ c = 'E' then
      let (negative, ds) := cutSign cs
      if ds.isEmpty ∨ !ds.all Char.isDigit then none
      else
        let n : Int := Nat.ofDigitChars 10 ds 0
        some (if negative then -n else n)
    else none

/-- Digits, on at least one side of a point, and a power of ten. -/
def readDecimal (negative : Bool) (cs : List Char) : Option Decimal := do
  let (whole, rest) := cs.span Char.isDigit
  let (places, rest) := match rest with
    | '.' :: rest => rest.span Char.isDigit
    | rest => ([], rest)
  if whole.isEmpty ∧ places.isEmpty then none
  else return decimalOf negative whole places (← readPower rest)

/-- A double in plain text; infinities and what is no number have names in any case. -/
def readFloat (cs : List Char) : Option Float :=
  let (negative, cs) := cutSign cs
  let name := String.ofList (lower cs)
  if name = "inf" ∨ name = "infinity" then some (if negative then -infinity else infinity)
  else if name = "nan" then some (infinity - infinity)
  else (readDecimal negative cs).map Decimal.toFloat

end SwitchAgent.Text
