import SwitchAgent.Json.Value

/-!
# Writing values

One line without layout. Quotes, backslashes and controls are escaped in strings, so no
line feed is ever written.
-/

namespace SwitchAgent.Json

def escapeChar (c : Char) : List Char :=
  if c == '"' then ['\\', '"']
  else if c == '\\' then ['\\', '\\']
  else if c == '\x08' then ['\\', 'b']
  else if c == '\x0c' then ['\\', 'f']
  else if c == '\n' then ['\\', 'n']
  else if c == '\r' then ['\\', 'r']
  else if c == '\t' then ['\\', 't']
  else if c.toNat < 0x20 then
    ['\\', 'u', '0', '0', Nat.digitChar (c.toNat / 16), Nat.digitChar (c.toNat % 16)]
  else [c]

def writeString (s : String) : List Char :=
  '"' :: s.toList.flatMap escapeChar ++ ['"']

def decimalDigits (n : Nat) : List Char :=
  Nat.toDigits 10 n

def writeInteger (n : Int) : List Char :=
  if n < 0 then '-' :: decimalDigits n.natAbs else decimalDigits n.natAbs

def writeNumeral (n : Numeral) : List Char :=
  (if n.negative then ['-'] else []) ++ decimalDigits n.significand ++
    if n.integral then [] else 'e' :: writeInteger n.exponent

mutual

def Value.write : Value → List Char
  | .null => ['n', 'u', 'l', 'l']
  | .bool true => ['t', 'r', 'u', 'e']
  | .bool false => ['f', 'a', 'l', 's', 'e']
  | .integer n => writeInteger n
  | .decimal n => writeNumeral n
  | .string s => writeString s
  | .array items => '[' :: Value.writeItems items ++ [']']
  | .object members => '\x7b' :: Value.writeMembers members ++ ['\x7d']
termination_by structural v => v

def Value.writeItems : List Value → List Char
  | [] => []
  | v :: vs => v.write ++ (if vs.isEmpty then [] else ',' :: Value.writeItems vs)
termination_by structural vs => vs

def Value.writeMembers : List (String × Value) → List Char
  | [] => []
  | (name, v) :: rest =>
    writeString name ++ ':' :: v.write ++
      (if rest.isEmpty then [] else ',' :: Value.writeMembers rest)
termination_by structural ms => ms

end

def Value.text (v : Value) : String :=
  String.ofList v.write

end SwitchAgent.Json
