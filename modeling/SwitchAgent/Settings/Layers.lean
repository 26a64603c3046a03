import SwitchAgent.Settings.Scalar
import SwitchAgent.Toml.Value

/-!
# Layers of settings

Later layers replace what earlier ones have set. A key may be a path into a setting; what a path
or a table leads into is no count any more. A table without members replaces nothing.
-/

namespace SwitchAgent.Settings

/-- What a key does with its setting. -/
inductive Change where
  | scalar (value : Scalar)
  /-- A table without members. -/
  | touch
  /-- A list, or a table with members. -/
  | composite
  deriving Repr

def Change.ofToml : Toml.Value → Change
  | .boolean b => .scalar (.boolean b)
  | .integer n => .scalar (.integer n)
  | .float x => .scalar (.float x)
  | .string s => .scalar (.text s)
  | .datetime s => .scalar (.text s)
  | .array _ => .composite
  | .table [] => .touch
  | .table _ => .composite

inductive Entry where
  | scalar (value : Scalar)
  | composite
  deriving Repr

abbrev Layer := List (String × Change)

abbrev Entries := List (String × Entry)

def Entries.set (entries : Entries) (name : String) (entry : Entry) : Entries :=
  match entries with
  | [] => [(name, entry)]
  | (n, e) :: rest => if n = name then (name, entry) :: rest else (n, e) :: Entries.set rest name entry

namespace Key

def isNameChar (c : Char) : Bool :=
  c.isAlphanum || c == ' ' || c == '_' || c == '-'

def isSpace (c : Char) : Bool :=
  c == ' ' || c == '\t'

/-- A position in a list, in brackets. -/
def skipIndex (cs : List Char) : Option (List Char) :=
  let cs := cs.dropWhile isSpace
  let (sign, cs) := match cs with
    | '-' :: cs => (['-'], cs)
    | cs => ([], cs)
  let (ds, cs) := cs.span Char.isDigit
  match Text.readInteger 0x8000000000000000 (sign ++ ds), cs.dropWhile isSpace with
  | .ok _, ']' :: cs => some cs
  | _, _ => none

/-- Whether a text is made of steps into a setting. -/
def isSteps : Nat → List Char → Bool
  | _, [] => true
  | 0, _ => false
  | fuel + 1, '.' :: cs =>
    match cs.span isNameChar with
    | ([], _) => false
    | (_, cs) => isSteps fuel cs
  | fuel + 1, '[' :: cs =>
    match skipIndex cs with
    | none => false
    | some cs => isSteps fuel cs
  | _, _ => false

end Key

/-- The name that a path starts with and whether it goes on. A key that is no path is a name. -/
def readPath (key : String) : String × Bool :=
  let cs := key.toList
  match cs.span Key.isNameChar with
  | ([], _) => (key, false)
  | (name, rest) =>
    if Key.isSteps rest.length rest then (String.ofList name, !rest.isEmpty) else (key, false)

def Entries.apply (entries : Entries) (key : String) (change : Change) : Entries :=
  match readPath key, change with
  | (name, true), _ => entries.set name .composite
  | (name, false), .scalar value => entries.set name (.scalar value)
  | (name, false), .composite => entries.set name .composite
  | (name, false), .touch =>
    if (entries.lookup name).isSome then entries else entries.set name .composite

def Entries.applyAll (entries : Entries) (layer : Layer) : Entries :=
  layer.foldl (fun entries change => entries.apply change.1 change.2) entries

end SwitchAgent.Settings
