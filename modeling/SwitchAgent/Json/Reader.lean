import SwitchAgent.Json.Document

/-!
# Reading documents

One reader for the whole grammar. It goes through the text once; every step takes at least
one character, so the length of the text bounds the nesting.
-/

namespace SwitchAgent.Json

def isLayout (c : Char) : Bool :=
  c == ' ' || c == '\t' || c == '\n' || c == '\r'

def skipLayout (cs : List Char) : List Char :=
  cs.dropWhile isLayout

def hexValue (c : Char) : Option Nat :=
  if '0' ≤ c ∧ c ≤ '9' then some (c.toNat - '0'.toNat)
  else if 'a' ≤ c ∧ c ≤ 'f' then some (c.toNat - 'a'.toNat + 10)
  else if 'A' ≤ c ∧ c ≤ 'F' then some (c.toNat - 'A'.toNat + 10)
  else none

def hexUnit (a b c d : Char) : Option Nat := do
  return (((← hexValue a) * 16 + (← hexValue b)) * 16 + (← hexValue c)) * 16 + (← hexValue d)

def isLeading (unit : Nat) : Bool :=
  0xd800 ≤ unit && unit < 0xdc00

def isTrailing (unit : Nat) : Bool :=
  0xdc00 ≤ unit && unit < 0xe000

def ofUnit (unit : Nat) : Glyph :=
  if isLeading unit || isTrailing unit then .loneSurrogate unit else .char (Char.ofNat unit)

def ofPair (leading trailing : Nat) : Glyph :=
  .char (Char.ofNat (0x10000 + (leading - 0xd800) * 0x400 + (trailing - 0xdc00)))

/-- A leading surrogate right before a trailing one is one character with it. -/
def joinSurrogates : Literal → Literal
  | .loneSurrogate a :: .loneSurrogate b :: rest =>
    if isLeading a && isTrailing b then ofPair a b :: joinSurrogates rest
    else .loneSurrogate a :: joinSurrogates (.loneSurrogate b :: rest)
  | g :: rest => g :: joinSurrogates rest
  | [] => []

def shortEscape : Char → Option Char
  | '"' => some '"'
  | '\\' => some '\\'
  | '/' => some '/'
  | 'b' => some '\x08'
  | 'f' => some '\x0c'
  | 'n' => some '\n'
  | 'r' => some '\r'
  | 't' => some '\t'
  | _ => none

/-- The pieces up to the closing quote, and what follows it. -/
def readGlyphs : List Char → Option (Literal × List Char)
  | [] => none
  | '"' :: rest => some ([], rest)
  | '\\' :: 'u' :: a :: b :: c :: d :: rest => do
    let unit ← hexUnit a b c d
    let (glyphs, rest) ← readGlyphs rest
    return (ofUnit unit :: glyphs, rest)
  | '\\' :: e :: rest => do
    let c ← shortEscape e
    let (glyphs, rest) ← readGlyphs rest
    return (.char c :: glyphs, rest)
  | c :: rest => do
    if c == '\\' then none
    let (glyphs, rest) ← readGlyphs rest
    return ((if c.toNat < 0x20 then .rawControl c else .char c) :: glyphs, rest)

def readLiteral (cs : List Char) : Option (Literal × List Char) := do
  let (glyphs, rest) ← readGlyphs cs
  return (joinSurrogates glyphs, rest)

def ofDigits (ds : List Char) : Nat :=
  Nat.ofDigitChars 10 ds 0

/-- A run of digits that must not be empty. -/
def readRun (cs : List Char) : Option (List Char × List Char) :=
  match cs.span Char.isDigit with
  | ([], _) => none
  | run => some run

/-- The integer part has no leading zeros. -/
def readWhole (cs : List Char) : Option (List Char × List Char) := do
  let (ds, rest) ← readRun cs
  match ds with
  | '0' :: _ :: _ => none
  | _ => return (ds, rest)

def readFraction : List Char → Option (Option (List Char) × List Char)
  | '.' :: rest => do
    let (ds, rest) ← readRun rest
    return (some ds, rest)
  | cs => some (none, cs)

def readExponent : List Char → Option (Option Int × List Char)
  | c :: rest =>
    if c == 'e' || c == 'E' then do
      let (negative, rest) := match rest with
        | '-' :: rest => (true, rest)
        | '+' :: rest => (false, rest)
        | rest => (false, rest)
      let (ds, rest) ← readRun rest
      let e : Int := ofDigits ds
      return (some (if negative then -e else e), rest)
    else some (none, c :: rest)
  | [] => some (none, [])

/-- Take digits up as long as 64 bits hold their number, and count those that are left. -/
def takeDigits : Nat → List Char → Nat × Nat
  | n, [] => (n, 0)
  | n, c :: cs =>
    let next := n * 10 + (c.toNat - '0'.toNat)
    if next < UInt64.size then takeDigits next cs else (n, cs.length + 1)

/-- A number. After digits of the integer part are left out those of the fraction are still
taken up, if they fit. -/
def readNumeral (negative : Bool) (cs : List Char) : Option (Numeral × List Char) := do
  let (whole, rest) ← readWhole cs
  let (fraction, rest) ← readFraction rest
  let (exponent, rest) ← readExponent rest
  let places := fraction.getD []
  let (significand, left) := takeDigits 0 whole
  let (significand, unused) := takeDigits significand places
  return (⟨negative, significand, exponent.getD 0 + left + unused - places.length,
    fraction.isNone && exponent.isNone && left == 0⟩, rest)

mutual

def readDocument : Nat → List Char → Option (Document × List Char)
  | 0, _ => none
  | fuel + 1, cs =>
    match skipLayout cs with
    | 'n' :: 'u' :: 'l' :: 'l' :: rest => some (.null, rest)
    | 't' :: 'r' :: 'u' :: 'e' :: rest => some (.bool true, rest)
    | 'f' :: 'a' :: 'l' :: 's' :: 'e' :: rest => some (.bool false, rest)
    | '"' :: rest => do
      let (l, rest) ← readLiteral rest
      return (.string l, rest)
    | '[' :: rest =>
      match skipLayout rest with
      | ']' :: rest => some (.array [], rest)
      | rest => do
        let (items, rest) ← readItems fuel rest
        return (.array items, rest)
    | '\x7b' :: rest =>
      match skipLayout rest with
      | '\x7d' :: rest => some (.object [], rest)
      | rest => do
        let (members, rest) ← readMembers fuel rest
        return (.object members, rest)
    | '-' :: rest => do
      let (n, rest) ← readNumeral true rest
      return (.number n, rest)
    | rest => do
      let (n, rest) ← readNumeral false rest
      return (.number n, rest)

def readItems : Nat → List Char → Option (List Document × List Char)
  | 0, _ => none
  | fuel + 1, cs => do
    let (item, rest) ← readDocument fuel cs
    match skipLayout rest with
    | ',' :: rest => do
      let (items, rest) ← readItems fuel rest
      return (item :: items, rest)
    | ']' :: rest => return ([item], rest)
    | _ => none

def readMembers : Nat → List Char → Option (List (Literal × Document) × List Char)
  | 0, _ => none
  | fuel + 1, cs => do
    match skipLayout cs with
    | '"' :: rest => do
      let (key, rest) ← readLiteral rest
      match skipLayout rest with
      | ':' :: rest => do
        let (item, rest) ← readDocument fuel rest
        match skipLayout rest with
        | ',' :: rest => do
          let (members, rest) ← readMembers fuel rest
          return ((key, item) :: members, rest)
        | '\x7d' :: rest => return ([(key, item)], rest)
        | _ => none
      | _ => none
    | _ => none

end

/-- The document that a whole text is. Only layout may follow it. -/
def Document.read (text : String) : Option Document := do
  let (document, rest) ← readDocument (text.length + 1) text.toList
  if skipLayout rest = [] then some document else none

end SwitchAgent.Json
