import SwitchAgent.Toml.Lexis
import SwitchAgent.Toml.Section

/-!
# Reading TOML documents

A document is a run of lines: keys with their terms, and headers that say which table the keys
after them belong to. Lists may span lines; tables between braces stand on one line. A text is
read to its end before its sections are gathered.
-/

namespace SwitchAgent.Toml

/-- A key, an equals sign, and the space around it. -/
def readAssignment (cs : List Char) : Option (List String × List Char) := do
  let (key, rest) ← readKey (cs.length + 1) cs
  match rest with
  | '=' :: rest => return (key, skipSpace rest)
  | _ => none

mutual

def readTerm : Nat → List Char → Option (Term × List Char)
  | 0, _ => none
  | fuel + 1, cs =>
    match cs with
    | '[' :: rest => do
      let (items, rest) ← readItems fuel rest
      return (.list items, rest)
    | '\x7b' :: rest =>
      match skipSpace rest with
      | '\x7d' :: rest => some (.braces [], rest)
      | rest => do
        let (members, rest) ← readMembers fuel [] rest
        return (.braces members, rest)
    | '"' :: _ => do
      let ((_, text), rest) ← readString cs
      return (.string text, rest)
    | '\'' :: _ => do
      let ((_, text), rest) ← readString cs
      return (.string text, rest)
    | _ => readPlain cs

/-- The items of a list and its end. A comma may follow the last one. -/
def readItems : Nat → List Char → Option (List Term × List Char)
  | 0, _ => none
  | fuel + 1, cs => do
    match ← skipTrivia cs with
    | ']' :: rest => return ([], rest)
    | rest => do
      let (item, rest) ← readTerm fuel rest
      match ← skipTrivia rest with
      | ',' :: rest => do
        let (items, rest) ← readItems fuel rest
        return (item :: items, rest)
      | ']' :: rest => return ([item], rest)
      | _ => none

/-- The members of a table between braces and its end. -/
def readMembers : Nat → Members → List Char → Option (Members × List Char)
  | 0, _, _ => none
  | fuel + 1, members, cs => do
    let (key, rest) ← readAssignment cs
    let (term, rest) ← readTerm fuel rest
    let members ← members.insert key term
    match skipSpace rest with
    | '\x7d' :: rest => return (members, rest)
    | ',' :: rest => readMembers fuel members (skipSpace rest)
    | _ => none

end

/-- A header after its first bracket. -/
def readHeader (cs : List Char) : Option ((List String × Bool) × List Char) := do
  let (listed, cs) := match cs with
    | '[' :: cs => (true, cs)
    | cs => (false, cs)
  let (path, rest) ← readKey (cs.length + 1) (skipSpace cs)
  match listed, rest with
  | false, ']' :: rest => return ((path, false), ← lineEnd rest)
  | true, ']' :: ']' :: rest => return ((path, true), ← lineEnd rest)
  | _, _ => none

/-- Sections with the one that has just been read. Without a header it counts only if it has
members. -/
def close (sections : Sections) (header : List String × Bool) (members : Members) : Sections :=
  if header.1.isEmpty && members.isEmpty then sections
  else sections ++ [⟨header.1, header.2, some members⟩]

/-- Read line after line. Every one takes at least a character. -/
def readLines : Nat → Sections → List String × Bool → Members → List Char → Option Sections
  | 0, _, _, _, _ => none
  | fuel + 1, sections, header, members, cs => do
    match ← skipTrivia cs with
    | [] => return close sections header members
    | '[' :: rest => do
      let (following, rest) ← readHeader rest
      readLines fuel (close sections header members) following [] rest
    | rest => do
      let (key, rest) ← readAssignment rest
      let (term, rest) ← readTerm fuel rest
      readLines fuel sections header (← members.insert key term) (← lineEnd rest)

/-- A carriage return before a line feed belongs to the line end. -/
def joinLineEnds : List Char → List Char
  | '\r' :: '\n' :: cs => '\n' :: joinLineEnds cs
  | c :: cs => c :: joinLineEnds cs
  | [] => []

/-- A byte order mark may lead. -/
def dropMark : List Char → List Char
  | '\ufeff' :: cs => cs
  | cs => cs

/-- The sections of a document, in the order in which they stand. -/
def readSections (text : String) : Option Sections :=
  let cs := joinLineEnds (dropMark text.toList)
  readLines (cs.length + 2) [] ([], false) [] cs

/-- What a document stands for: a table, or a date. No name, member or section is longer than the
text, which bounds how many steps it takes to gather them. -/
def read (text : String) : Option Value := do
  let sections ← readSections text
  let size := text.length + 2
  let (v, _) ← gatherTable (6 * (size * size)) ⟨0, 0, 0, sections.length⟩ [] [] sections
  return v

end SwitchAgent.Toml
