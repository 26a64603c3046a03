import SwitchAgent.Address.IsdAs

/-!
# The table of telemetry rules

One rule a line: the remote AS and, in hexadecimal, which telemetry to collect on the way to
it. Blank lines and lines that start with a number sign are skipped. Rules keep their order,
and a bad line spoils the table.
-/

namespace SwitchAgent.Telemetry

structure Rule where
  remote : IsdAs
  intBitmask : UInt16
  scionBitmask : UInt16
  deriving DecidableEq, Repr

/-- A bitmask may be marked as hexadecimal. -/
def bitmaskDigits : List Char → List Char
  | '0' :: 'x' :: ds => ds
  | '0' :: 'X' :: ds => ds
  | ds => ds

def readBitmask (line : String) (field : List Char) : Except Fault UInt16 :=
  match Text.readNumeral 16 0x10000 (bitmaskDigits field) with
  | .ok n => .ok (UInt16.ofNat n)
  | .error cause => .error (.invalidBitmask (String.ofList field) line cause)

/-- Fields after the third are ignored. -/
def Rule.parse (line : String) : Except Fault Rule :=
  match Text.fields line.toList with
  | remote :: int :: scion :: _ => do
    let remote ← IsdAs.parse (String.ofList remote)
    let int ← readBitmask line int
    let scion ← readBitmask line scion
    return ⟨remote, int, scion⟩
  | _ => .error (.incompleteRule line)

abbrev RuleTable := List Rule

namespace RuleTable

def isRule (line : List Char) : Bool :=
  match line with
  | [] => false
  | c :: _ => c != '#'

/-- The lines of a text that hold rules, without blanks around them. -/
def ruleLines (text : String) : List String :=
  (((Text.lines text.toList).map Text.trim).filter isRule).map String.ofList

def parse (text : String) : Except Fault RuleTable :=
  (ruleLines text).mapM Rule.parse

end RuleTable

end SwitchAgent.Telemetry
