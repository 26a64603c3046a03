/-!
# Paths

The name that a path ends in, and what stands behind the last dot of that name. Slashes and single
dots at the end of a path lead nowhere.
-/

namespace SwitchAgent.Path

/-- A path from its end, without the slashes and single dots that it ends in. -/
def settle : List Char → List Char
  | '/' :: cs => settle cs
  | '.' :: '/' :: cs => settle cs
  | cs => cs

/-- The name that a path ends in, from its end. The root has none, and a directory by dots has
none. -/
def name? (path : String) : Option (List Char) :=
  match (settle path.toList.reverse).takeWhile (· != '/') with
  | [] | ['.'] | ['.', '.'] => none
  | name => some name

/-- What stands behind the last dot of the name, if anything stands before that dot. -/
def extension? (path : String) : Option String := do
  let name ← name? path
  match name.span (· != '.') with
  | (_, []) | (_, ['.']) => none
  | (ending, _) => some (String.ofList ending.reverse)

/-- The path with one more extension to its name. -/
def extend? (path extension : String) : Option String :=
  (name? path).map fun _ =>
    String.ofList ((settle path.toList.reverse).reverse ++ '.' :: extension.toList)

end SwitchAgent.Path
