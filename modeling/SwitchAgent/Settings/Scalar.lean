import SwitchAgent.Text.Decimal

/-!
# Scalars as counts

A setting is a count, but it may be given as a number of any kind, a truth value or a text.
-/

namespace SwitchAgent.Settings

open Text

inductive Scalar where
  | boolean (value : Bool)
  | integer (value : Int)
  | float (value : Float)
  | text (value : String)
  deriving Repr

namespace Scalar

def affirmative : List String :=
  ["true", "on", "yes"]

def negative : List String :=
  ["false", "off", "no"]

def countOfText (s : String) : Option UInt64 :=
  let word := String.ofList (lower s.toList)
  if affirmative.contains word then some 1
  else if negative.contains word then some 0
  else match readNumeral 10 UInt64.size s.toList with
    | .ok n => some (UInt64.ofNat n)
    | .error _ => none

/-- The count that a scalar is taken for. A fraction goes to the nearest whole number, a half
away from zero, and what is out of range to the nearest count. -/
def count? : Scalar → Option UInt64
  | boolean b => some (if b then 1 else 0)
  | integer n => if 0 ≤ n ∧ n < UInt64.size then some (UInt64.ofNat n.toNat) else none
  | float x => some x.round.toUInt64
  | text s => countOfText s

/-- A text without a type of its own: a truth value, a whole number, a number, or itself. -/
def ofUntyped (s : String) : Scalar :=
  match String.ofList (lower s.toList) with
  | "true" => boolean true
  | "false" => boolean false
  | _ =>
    match readInteger 0x8000000000000000 s.toList with
    | .ok n => integer n
    | .error _ =>
      match readFloat s.toList with
      | some x => float x
      | none => text s

end Scalar

end SwitchAgent.Settings
