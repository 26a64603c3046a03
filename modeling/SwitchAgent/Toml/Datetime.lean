import SwitchAgent.Text.Numeral

/-!
# Dates and times

A date, a time, or a date and a time, which may say how far it is from universal time. Every month
may have 31 days, and hours go up to 24.
-/

namespace SwitchAgent.Toml.Datetime

/-- A number of two digits up to a limit. -/
def readPair (limit : Nat) : List Char → Option (Nat × List Char)
  | a :: b :: rest =>
    if a.isDigit ∧ b.isDigit then
      let n := Nat.ofDigitChars 10 [a, b] 0
      if n ≤ limit then some (n, rest) else none
    else none
  | _ => none

def expect (c : Char) : List Char → Option (List Char)
  | d :: rest => if c = d then some rest else none
  | [] => none

def readDate (cs : List Char) : Option (List Char) := do
  let (_, cs) ← readPair 99 cs
  let (_, cs) ← readPair 99 cs
  let (month, cs) ← readPair 12 (← expect '-' cs)
  let (day, cs) ← readPair 31 (← expect '-' cs)
  if month = 0 ∨ day = 0 then none else some cs

def readTime (cs : List Char) : Option (List Char) := do
  let (_, cs) ← readPair 24 cs
  let (_, cs) ← readPair 59 (← expect ':' cs)
  let (_, cs) ← readPair 59 (← expect ':' cs)
  match cs with
  | '.' :: cs =>
    match cs.span Char.isDigit with
    | ([], _) => none
    | (_, cs) => some cs
  | cs => some cs

/-- How far local time is from universal time, if that is said. -/
def readOffset : List Char → Option (List Char)
  | [] => some []
  | c :: cs =>
    if c = 'Z' ∨ c = 'z' then some cs
    else if c = '+' ∨ c = '-' then do
      let (_, cs) ← readPair 99 cs
      let (_, cs) ← readPair 99 (← expect ':' cs)
      return cs
    else none

/-- What is left after a date, a time, or both. -/
def readMoment (cs : List Char) : Option (List Char) :=
  if cs[2]? = some ':' then readTime cs
  else do
    match ← readDate cs with
    | c :: rest =>
      if c = 'T' ∨ c = 't' ∨ c = ' ' then readOffset (← readTime rest) else some (c :: rest)
    | [] => some []

def isValid (cs : List Char) : Bool :=
  readMoment cs == some []

end SwitchAgent.Toml.Datetime
