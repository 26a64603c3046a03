import SwitchAgent.Json.Writer

/-!
# Forms of types

How the values of a type stand in JSON. A record is an object with a member for each field,
or an array of its fields in order. A choice without content is its name; one with content is
an object of one member. A tagged choice names its type beside its body.
-/

namespace SwitchAgent.Json

/-- Where a document stands: how many levels it may still nest, and whether it had to be kept
until its type was known. -/
structure Scope where
  depth : Nat
  buffered : Bool

namespace Scope

/-- Documents may nest 127 levels. -/
def outer : Scope :=
  ⟨127, false⟩

def enter (scope : Scope) : Option Scope :=
  match scope.depth with
  | 0 => none
  | depth + 1 => some ⟨depth, scope.buffered⟩

end Scope

class Form (α : Type) where
  encode : α → Value
  decode : Scope → Document → Option α

export Form (encode)

variable {α : Type}

/-- Read the text of one document. -/
def read [Form α] (text : String) : Option α :=
  (Document.read text).bind (Form.decode .outer)

def readValue [Form α] (value : Value) : Option α :=
  Form.decode .outer value.toDocument

def write [Form α] (a : α) : String :=
  (encode a).text

instance : Form Value where
  encode v := v
  decode scope d := d.toValue? scope.depth

instance : Form Bool where
  encode b := .bool b
  decode
    | _, .bool b => some b
    | _, _ => none

instance : Form String where
  encode s := .string s
  decode
    | _, .string l => l.text?
    | _, _ => none

/-- An integer between two bounds, both included. -/
def decodeInteger (low high : Int) : Document → Option Int
  | .number n => n.integer?.filter fun i => low ≤ i ∧ i ≤ high
  | _ => none

instance : Form UInt16 where
  encode n := .integer n.toNat
  decode _ d := (decodeInteger 0 0xffff d).map fun i => UInt16.ofNat i.toNat

instance : Form UInt32 where
  encode n := .integer n.toNat
  decode _ d := (decodeInteger 0 0xffffffff d).map fun i => UInt32.ofNat i.toNat

instance : Form UInt64 where
  encode n := .integer n.toNat
  decode _ d := (decodeInteger 0 0xffffffffffffffff d).map fun i => UInt64.ofNat i.toNat

instance : Form Int32 where
  encode n := .integer n.toInt
  decode _ d := (decodeInteger (-0x80000000) 0x7fffffff d).map Int32.ofInt

instance : Form Int64 where
  encode n := .integer n.toInt
  decode _ d := (decodeInteger (-0x8000000000000000) 0x7fffffffffffffff d).map Int64.ofInt

def decodeItems (decode : Scope → Document → Option α) (scope : Scope) :
    Document → Option (List α)
  | .array items => do
    let inner ← scope.enter
    items.mapM (decode inner)
  | _ => none

instance [Form α] : Form (List α) where
  encode as := .array (as.map encode)
  decode := decodeItems Form.decode

def decodeByte (d : Document) : Option UInt8 :=
  (decodeInteger 0 0xff d).map fun i => UInt8.ofNat i.toNat

/-- Bytes are an array of numbers; a string is taken for the bytes of its text. Only what is
read as it comes may be no text. -/
instance : Form (List UInt8) where
  encode bytes := .array (bytes.map fun b => .integer b.toNat)
  decode
    | _, .string l => some l.bytes
    | scope, d => decodeItems (fun _ => decodeByte) scope d

/-- The fields of a record that a document gives. -/
structure Fields where
  found : List (String × Document)
  /-- Given by name and not by place. -/
  named : Bool
  scope : Scope

namespace Fields

/-- A known name must not stand twice; the members with other names are passed over. -/
def collect (names : List String) : List (Literal × Document) →
    Option (List (String × Document))
  | [] => some []
  | (key, d) :: rest => do
    let name ← key.text?
    let found ← collect names rest
    if names.contains name then
      if found.any (·.1 == name) then none else return (name, d) :: found
    else if d.isSkippable then return found
    else none

def ofObject (names : List String) (scope : Scope) : Document → Option Fields
  | .object members => do
    let inner ← scope.enter
    return ⟨← collect names members, true, inner⟩
  | _ => none

def ofDocument (names : List String) (scope : Scope) : Document → Option Fields
  | .array items => do
    let inner ← scope.enter
    if items.length ≤ names.length then some ⟨names.zip items, false, inner⟩ else none
  | d => ofObject names scope d

def get? (fields : Fields) (name : String) : Option Document :=
  fields.found.lookup name

def required [Form α] (fields : Fields) (name : String) : Option α :=
  (fields.get? name).bind (Form.decode fields.scope)

def withDefault [Form α] (fields : Fields) (name : String) (default : α) : Option α :=
  match fields.get? name with
  | none => some default
  | some d => Form.decode fields.scope d

/-- A field that may be null. By name it may be absent too. -/
def optional [Form α] (fields : Fields) (name : String) : Option (Option α) :=
  match fields.get? name with
  | none => if fields.named then some none else none
  | some .null => some none
  | some d => (Form.decode fields.scope d).map some

end Fields

/-- The content of a choice without content, in its long form. Of a document that had to be
kept, an empty object will do. -/
def isUnit (scope : Scope) : Document → Bool
  | .null => true
  | .object [] => scope.buffered
  | _ => false

/-- The name of a choice without content. -/
def choiceName (scope : Scope) : Document → Option String
  | .string l => l.text?
  | .object [(key, d)] => do
    let inner ← scope.enter
    if isUnit inner d then key.text? else none
  | _ => none

/-- The name of a choice with content, and the content. -/
def choiceContent (scope : Scope) : Document → Option (String × Document × Scope)
  | .object [(key, d)] => do
    let inner ← scope.enter
    return (← key.text?, d, inner)
  | _ => none

def encodeChoice (name : String) (content : Value) : Value :=
  .object [(name, content)]

/-- A tagged choice, as far as its members have been seen. -/
structure Tagged where
  tag : Option String := none
  body : Option (Document × Scope) := none

namespace Tagged

/-- A body that comes before its tag has to be kept, so it must be sound throughout. -/
def member (scope : Scope) (seen : Tagged) (name : String) (d : Document) : Option Tagged :=
  if name = "type" then
    match seen.tag with
    | some _ => none
    | none => do
      let tag ← choiceName ⟨scope.depth, false⟩ d
      return { seen with tag := some tag }
  else if name = "body" then
    match seen.body, seen.tag with
    | some _, _ => none
    | none, some _ => some { seen with body := some (d, scope) }
    | none, none =>
      if (d.toValue? scope.depth).isSome then
        some { seen with body := some (d, ⟨scope.depth, true⟩) }
      else none
  else if d.isSkippable then some seen
  else none

def members (scope : Scope) : Tagged → List (Literal × Document) → Option Tagged
  | seen, [] => some seen
  | seen, (key, d) :: rest => do
    let name ← key.text?
    members scope (← seen.member scope name d) rest

/-- Tag and body of a tagged choice whose every case has a body. In an array the tag is a name. -/
def ofDocument (scope : Scope) : Document → Option (String × Document × Scope)
  | .object ms => do
    let inner ← scope.enter
    match ← members inner {} ms with
    | ⟨some tag, some (body, scope)⟩ => some (tag, body, scope)
    | _ => none
  | .array [.string tag, body] => do
    let inner ← scope.enter
    return (← tag.text?, body, inner)
  | _ => none

end Tagged

def encodeTagged (tag : String) (body : Value) : Value :=
  .object [("type", .string tag), ("body", body)]

end SwitchAgent.Json
