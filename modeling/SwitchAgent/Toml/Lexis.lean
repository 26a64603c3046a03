import SwitchAgent.Text.Decimal
import SwitchAgent.Toml.Term

/-!
# Keys, strings, numbers and dates

The readers for what has no parts. Each takes its piece off the front of the text. Line feeds
stand for all line ends. Of dates and times only the layout is looked at.
-/

namespace SwitchAgent.Toml

open Text

/-- The characters of keys without quotes, and of everything that is not a string. -/
def isBare (c : Char) : Bool :=
  c.isAlphanum || c == '-' || c == '_'

def isSpace (c : Char) : Bool :=
  c == ' ' || c == '\t'

def skipSpace (cs : List Char) : List Char :=
  cs.dropWhile isSpace

/-- What a string may hold as it stands. -/
def isPlain (c : Char) : Bool :=
  c == '\t' || (' ' ≤ c && c != '\x7f')

def skipComment (cs : List Char) : List Char :=
  cs.dropWhile fun c => c == '\t' || ' ' ≤ c

/-- The end of a line, with or without a comment. -/
def lineEnd (cs : List Char) : Option (List Char) :=
  let rest := match skipSpace cs with
    | '#' :: rest => skipComment rest
    | rest => rest
  match rest with
  | [] => some []
  | '\n' :: rest => some rest
  | _ => none

/-- Skip blank lines and comments, and the space before what follows them. -/
def skipLines : Nat → List Char → Option (List Char)
  | 0, cs => some cs
  | fuel + 1, cs =>
    match skipSpace cs with
    | '#' :: rest => do
      match skipComment rest with
      | [] => some []
      | '\n' :: rest => skipLines fuel rest
      | _ => none
    | '\n' :: rest => skipLines fuel rest
    | rest => some rest

def skipTrivia (cs : List Char) : Option (List Char) :=
  skipLines (cs.length + 1) cs

def scalar? (n : Nat) : Option Char :=
  if n.isValidChar then some (Char.ofNat n) else none

def readCodePoint (count : Nat) (cs : List Char) : Option (List Char × List Char) := do
  let ds := cs.take count
  if ds.length < count then none
  let n ← ds.foldlM (fun n c => (digitValue 16 c).map (n * 16 + ·)) 0
  return ([← scalar? n], cs.drop count)

/-- What follows a backslash. At the end of a line it joins the line to the next text. -/
def readEscape (multiline : Bool) : List Char → Option (List Char × List Char)
  | '"' :: rest => some (['"'], rest)
  | '\\' :: rest => some (['\\'], rest)
  | 'b' :: rest => some (['\x08'], rest)
  | 'f' :: rest => some (['\x0c'], rest)
  | 'n' :: rest => some (['\n'], rest)
  | 'r' :: rest => some (['\r'], rest)
  | 't' :: rest => some (['\t'], rest)
  | 'u' :: rest => readCodePoint 4 rest
  | 'U' :: rest => readCodePoint 8 rest
  | rest =>
    match multiline, skipSpace rest with
    | true, '\n' :: rest => some ([], rest.dropWhile fun c => isSpace c || c == '\n')
    | _, _ => none

/-- The quotes that end a string of several lines: three, of which up to two more belong to the
text. -/
def closing (count : Nat) : Option Nat :=
  if count < 3 then none else some (min (count - 3) 2)

/-- The text of a string up to its end. Only in double quotes has a backslash a meaning. -/
def readStringBody (quote : Char) (multiline : Bool) : Nat → List Char →
    Option (List Char × List Char)
  | 0, _ => none
  | _, [] => none
  | fuel + 1, c :: rest =>
    if c = quote then
      if multiline then
        let count := (rest.takeWhile (· == quote)).length + 1
        match closing count with
        | some kept => some (List.replicate kept quote, rest.drop (kept + 2))
        | none => do
          let (text, rest) ← readStringBody quote multiline fuel (rest.drop (count - 1))
          return (List.replicate count quote ++ text, rest)
      else some ([], rest)
    else do
      let (piece, rest) ←
        if c = '\\' ∧ quote = '"' then readEscape multiline rest
        else if isPlain c ∨ (multiline ∧ c = '\n') then some ([c], rest)
        else none
      let (text, rest) ← readStringBody quote multiline fuel rest
      return (piece ++ text, rest)

/-- A string, of one line or of several, from its first quote on. -/
def readString : List Char → Option ((Bool × String) × List Char)
  | q :: rest =>
    if q ≠ '"' ∧ q ≠ '\'' then none
    else match rest with
      | a :: b :: body =>
        if a = q ∧ b = q then do
          let body := match body with
            | '\n' :: body => body
            | body => body
          let (text, rest) ← readStringBody q true (body.length + 1) body
          return ((true, String.ofList text), rest)
        else do
          let (text, rest) ← readStringBody q false (rest.length + 1) rest
          return ((false, String.ofList text), rest)
      | _ => do
        let (text, rest) ← readStringBody q false (rest.length + 1) rest
        return ((false, String.ofList text), rest)
  | [] => none

/-- One part of a key. -/
def readKeyPart (cs : List Char) : Option (String × List Char) :=
  match cs.span isBare with
  | ([], _) => do
    let ((multiline, text), rest) ← readString cs
    if multiline then none else return (text, rest)
  | (bare, rest) => some (String.ofList bare, rest)

/-- Parts between periods, and the space after them. -/
def readKey : Nat → List Char → Option (List String × List Char)
  | 0, _ => none
  | fuel + 1, cs => do
    let (part, rest) ← readKeyPart cs
    match skipSpace rest with
    | '.' :: rest => do
      let (parts, rest) ← readKey fuel (skipSpace rest)
      return (part :: parts, rest)
    | rest => return ([part], rest)

/-- Digits, with single underscores between them. -/
def readDigitRun (radix : Nat) : Bool → List Char → Option (List Char × List Char)
  | needed, [] => if needed then none else some ([], [])
  | needed, c :: rest =>
    if (digitValue radix c).isSome then do
      let (ds, rest) ← readDigitRun radix false rest
      return (c :: ds, rest)
    else if needed then none
    else if c = '_' then readDigitRun radix true rest
    else some ([], c :: rest)

/-- Digits of a decimal integer. There are no leading zeros. -/
def readWhole (cs : List Char) : Option (List Char × List Char) := do
  let (ds, rest) ← readDigitRun 10 true cs
  match ds with
  | '0' :: _ :: _ => none
  | _ => return (ds, rest)

def ofDigits (radix : Nat) (ds : List Char) : Nat :=
  ds.foldl (fun n c => n * radix + (digitValue radix c).getD 0) 0

def integerValue (n : Int) : Option Term :=
  if -0x8000000000000000 ≤ n ∧ n < 0x8000000000000000 then some (.integer n) else none

/-- A float has to be finite unless it is written by name. -/
def floatValue (d : Decimal) : Option Term :=
  if d.toFloat.isFinite then some (.float d.toFloat) else none

def cutMinus : List Char → Bool × List Char
  | '-' :: rest => (true, rest)
  | cs => (false, cs)

/-- A power of ten, if one follows. -/
def readExponent : List Char → Option (Option Int × List Char)
  | c :: rest =>
    if c = 'e' ∨ c = 'E' then do
      let (negative, rest) := cutSign rest
      let (ds, rest) ← readDigitRun 10 true rest
      let n : Int := ofDigits 10 ds
      return (some (if negative then -n else n), rest)
    else some (none, c :: rest)
  | [] => some (none, [])

def named (negative : Bool) : String → Option Float
  | "inf" => some (if negative then -infinity else infinity)
  | "nan" => some (infinity - infinity)
  | _ => none

def readDecimalNumber (negative : Bool) (cs : List Char) : Option (Term × List Char) := do
  let (whole, rest) ← readWhole cs
  let (places, rest) ← match rest with
    | '.' :: rest => do
      let (ds, rest) ← readDigitRun 10 true rest
      pure (some ds, rest)
    | rest => some (none, rest)
  let (exponent, rest) ← readExponent rest
  let value ←
    if places.isNone ∧ exponent.isNone then
      let n : Int := ofDigits 10 whole
      integerValue (if negative then -n else n)
    else floatValue (decimalOf negative whole (places.getD []) (exponent.getD 0))
  return (value, rest)

def readRadix (radix : Nat) (cs : List Char) : Option (Term × List Char) := do
  let (ds, rest) ← readDigitRun radix true cs
  return (← integerValue (ofDigits radix ds), rest)

/-- A number without a plus sign. Nothing that could belong to it may follow. -/
def readUnmarked (cs : List Char) : Option (Term × List Char) := do
  let (value, rest) ← match cs with
    | '0' :: 'x' :: cs => readRadix 16 cs
    | '0' :: 'o' :: cs => readRadix 8 cs
    | '0' :: 'b' :: cs => readRadix 2 cs
    | cs =>
      let (negative, ds) := cutMinus cs
      match named negative (String.ofList (ds.takeWhile isBare)) with
      | some x => some (.float x, ds.dropWhile isBare)
      | none => readDecimalNumber negative ds
  match rest with
  | c :: _ => if isBare c then none else return (value, rest)
  | [] => return (value, rest)

/-- A plus sign may lead, even before a minus sign or a radix. -/
def readNumber : List Char → Option (Term × List Char)
  | '+' :: cs => readUnmarked cs
  | cs => readUnmarked cs

/-- A run of bare characters that must not be empty. -/
def skipBare (cs : List Char) : Option (List Char) :=
  match cs.span isBare with
  | ([], _) => none
  | (_, rest) => some rest

/-- A mark and the bare characters after it, if it is there. -/
def skipMarked (mark : Char) : List Char → Option (List Char)
  | c :: rest => if c = mark then skipBare rest else some (c :: rest)
  | [] => some []

/-- What may follow the first colon of a time: minutes, seconds, a fraction and an offset. -/
def skipClock (cs : List Char) : Option (List Char) := do
  match ← skipBare cs with
  | ':' :: cs => do
    let cs ← skipMarked '.' (← skipBare cs)
    skipMarked ':' (← skipMarked '+' cs)
  | _ => none

/-- A single space parts a date from its time. -/
def skipHour : List Char → List Char
  | ' ' :: c :: cs => if isBare c then cs.dropWhile isBare else ' ' :: c :: cs
  | cs => cs

/-- What looks like a date or a time from its second piece on. -/
def readDatetime (cs rest : List Char) : Option (Term × List Char) := do
  let rest ← match skipHour rest with
    | ':' :: rest => skipClock rest
    | rest => some rest
  return (.datetime (String.ofList (cs.take (cs.length - rest.length))), rest)

/-- Whether a minus sign follows the letter of an exponent. -/
def hasNegativePower : List Char → Bool
  | a :: b :: rest => ((a == 'e' || a == 'E') && b == '-') || hasNegativePower (b :: rest)
  | _ => false

/-- Whether a piece of text is taken for a date or a time and not for a number. -/
def isDatetime (piece rest : List Char) : Bool :=
  piece.any (fun c => c == 't' || c == 'T') ||
    ((piece.drop 1).contains '-' && !hasNegativePower piece) || rest.head? == some ':'

/-- How numbers, dates and times start. -/
def isNumeric (piece : List Char) : Bool :=
  match piece with
  | [] => false
  | c :: _ =>
    c.isDigit || c == '-' || piece == ['i', 'n', 'f'] || piece == ['n', 'a', 'n']

/-- A term that is neither a string nor made of others. -/
def readPlain (cs : List Char) : Option (Term × List Char) :=
  let (piece, rest) := cs.span isBare
  match String.ofList piece with
  | "true" => some (.boolean true, rest)
  | "false" => some (.boolean false, rest)
  | _ =>
    if isNumeric piece then
      if isDatetime piece rest then readDatetime cs rest else readNumber cs
    else if cs.head? = some '+' then readNumber cs
    else none

end SwitchAgent.Toml
