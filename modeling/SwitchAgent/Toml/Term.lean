import SwitchAgent.Toml.Datetime
import SwitchAgent.Toml.Value

/-!
# Terms

What is written on the right of an equals sign. A term is well formed, but its dates need not
exist and its keys need not differ; only a term with a value is sound in both.
-/

namespace SwitchAgent.Toml

inductive Term where
  | boolean (value : Bool)
  | integer (value : Int)
  | float (value : Float)
  | string (value : String)
  | datetime (text : String)
  | list (items : List Term)
  /-- A table between braces. -/
  | braces (members : List (String × Term))
  /-- A table that dotted keys make. -/
  | dotted (members : List (String × Term))
  deriving Repr, Inhabited

abbrev Members := List (String × Term)

/-- Change the first member of a name. -/
def Members.put (key : String) (t : Term) : Members → Members
  | [] => []
  | (k, u) :: rest => if k = key then (k, t) :: rest else (k, u) :: Members.put key t rest

/-- Give a term to a key. Only a table of dotted keys takes more members; whether a key
is given twice is not looked at. -/
def Members.insert : List String → Term → Members → Option Members
  | [], _, _ => none
  | [key], t, ms => some (ms ++ [(key, t)])
  | key :: path, t, ms =>
    match ms.lookup key with
    | none => (Members.insert path t []).map fun sub => ms ++ [(key, .dotted sub)]
    | some (.dotted sub) => (Members.insert path t sub).map fun sub => ms.put key (.dotted sub)
    | some _ => none

/-- The first key of a table that is no table but a date, which the key's text gives. -/
def dateKey : String := "$__toml_private_datetime"

/-- The date that a text gives. -/
def Term.date? : Term → Option Value
  | .string s => if Datetime.isValid s.toList then some (.datetime s) else none
  | _ => none

/-- A table with one member more, unless it has the key. -/
def addMember (table : List (String × Value)) (key : String) (v : Value) :
    Option (List (String × Value)) :=
  if table.any (·.1 == key) then none else some (table ++ [(key, v)])

mutual

def Term.toValue? : Term → Option Value
  | .boolean b => some (.boolean b)
  | .integer n => some (.integer n)
  | .float x => some (.float x)
  | .string s => some (.string s)
  | .datetime s => if Datetime.isValid s.toList then some (.datetime s) else none
  | .list items => (Term.toValues? items).map .array
  | .braces members => Term.toTable? members []
  | .dotted members => Term.toTable? members []
termination_by structural t => t

def Term.toValues? : List Term → Option (List Value)
  | [] => some []
  | t :: ts => do
    let v ← t.toValue?
    let vs ← Term.toValues? ts
    return v :: vs
termination_by structural ts => ts

/-- The table of members, given those before them. After the key of a date nothing is read. -/
def Term.toTable? : List (String × Term) → List (String × Value) → Option Value
  | [], table => some (.table table)
  | (key, t) :: rest, table =>
    if table.isEmpty && key == dateKey then t.date?
    else do
      let v ← t.toValue?
      Term.toTable? rest (← addMember table key v)
termination_by structural ms => ms

end

end SwitchAgent.Toml
