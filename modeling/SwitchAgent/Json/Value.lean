import SwitchAgent.Json.Reader

/-!
# Free-form values

A value is a document that is sound throughout: its strings are texts, its numbers are
finite, and no name stands twice in an object. Of repeated names the last one counts.
-/

namespace SwitchAgent.Json

inductive Value where
  | null
  | bool (value : Bool)
  | integer (value : Int)
  /-- A number that is no 64-bit integer. -/
  | decimal (value : Numeral)
  | string (value : String)
  | array (items : List Value)
  | object (members : List (String × Value))
  deriving BEq, Repr, Inhabited

/-- Members with one more. A name that is there already keeps its place. -/
def putMember (members : List (String × Value)) (name : String) (value : Value) :
    List (String × Value) :=
  match members with
  | [] => [(name, value)]
  | (n, v) :: rest =>
    if n = name then (name, value) :: rest else (n, v) :: putMember rest name value

def Numeral.toValue? (n : Numeral) : Option Value :=
  match n.integer? with
  | some i => some (.integer i)
  | none => if n.isFinite then some (.decimal n) else none

mutual

/-- The value of a document that nests at most `depth` levels. -/
def Document.toValue? : Document → Nat → Option Value
  | .null, _ => some .null
  | .bool b, _ => some (.bool b)
  | .number n, _ => n.toValue?
  | .string l, _ => l.text?.map .string
  | .array items, depth + 1 => (Document.toValues? items depth).map .array
  | .object members, depth + 1 => (Document.toMembers? members depth []).map .object
  | .array _, 0 => none
  | .object _, 0 => none
termination_by structural d => d

def Document.toValues? : List Document → Nat → Option (List Value)
  | [], _ => some []
  | d :: ds, depth => do
    let v ← d.toValue? depth
    let vs ← Document.toValues? ds depth
    return v :: vs
termination_by structural ds => ds

def Document.toMembers? : List (Literal × Document) → Nat → List (String × Value) →
    Option (List (String × Value))
  | [], _, members => some members
  | (key, d) :: rest, depth, members => do
    let name ← key.text?
    let v ← d.toValue? depth
    Document.toMembers? rest depth (putMember members name v)
termination_by structural ms => ms

end

mutual

def Value.toDocument : Value → Document
  | .null => .null
  | .bool b => .bool b
  | .integer n => .number (.ofInt n)
  | .decimal n => .number n
  | .string s => .string (.ofString s)
  | .array items => .array (Value.toDocuments items)
  | .object members => .object (Value.toDocumentMembers members)
termination_by structural v => v

def Value.toDocuments : List Value → List Document
  | [] => []
  | v :: vs => v.toDocument :: Value.toDocuments vs
termination_by structural vs => vs

def Value.toDocumentMembers : List (String × Value) → List (Literal × Document)
  | [] => []
  | (name, v) :: rest => (.ofString name, v.toDocument) :: Value.toDocumentMembers rest
termination_by structural ms => ms

end

end SwitchAgent.Json
