/-!
# Unsigned numerals

A numeral is read from left to right: a character that is no digit is refused
before the value so far is found too large. One plus sign may lead.
-/

namespace SwitchAgent.Text

inductive NumeralError where
  | empty
  | invalidDigit
  | tooLarge
  deriving DecidableEq, Repr

def NumeralError.message : NumeralError → String
  | .empty => "cannot parse integer from empty string"
  | .invalidDigit => "invalid digit found in string"
  | .tooLarge => "number too large to fit in target type"

/-- The value of an ASCII letter or digit, if it is below the radix. -/
def digitValue (radix : Nat) (c : Char) : Option Nat :=
  let value? :=
    if '0' ≤ c ∧ c ≤ '9' then some (c.toNat - '0'.toNat)
    else if 'a' ≤ c ∧ c ≤ 'z' then some (c.toNat - 'a'.toNat + 10)
    else if 'A' ≤ c ∧ c ≤ 'Z' then some (c.toNat - 'A'.toNat + 10)
    else none
  value?.filter (· < radix)

def readDigits (radix limit : Nat) : Nat → List Char → Except NumeralError Nat
  | value, [] => .ok value
  | value, c :: cs =>
    match digitValue radix c with
    | none => .error .invalidDigit
    | some d =>
      let value := value * radix + d
      if value < limit then readDigits radix limit value cs else .error .tooLarge

/-- Read a number below `limit`. A sign alone is no numeral. -/
def readNumeral (radix limit : Nat) : List Char → Except NumeralError Nat
  | [] => .error .empty
  | ['+'] => .error .invalidDigit
  | '+' :: cs => readDigits radix limit 0 cs
  | cs => readDigits radix limit 0 cs

/-- Read an integer of which only the digits' value is bounded; a minus sign may lead too. -/
def readInteger (limit : Nat) : List Char → Except NumeralError Int
  | '-' :: c :: cs => (readDigits 10 (limit + 1) 0 (c :: cs)).map fun n => -(n : Int)
  | cs => (readNumeral 10 limit cs).map Int.ofNat

def hexDigits (n : Nat) : List Char :=
  Nat.toDigits 16 n

def hex (n : Nat) : String :=
  String.ofList (hexDigits n)

/-- Hexadecimal with leading zeros up to a width. -/
def hexPadded (width n : Nat) : String :=
  let ds := hexDigits n
  String.ofList (List.replicate (width - ds.length) '0' ++ ds)

end SwitchAgent.Text
