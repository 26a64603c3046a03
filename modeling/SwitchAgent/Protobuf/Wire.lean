import SwitchAgent.Protobuf.Varint

/-!
# The wire format

A message is a run of fields, each a key and a content whose extent the key's wire type gives.
Fields that nobody knows are skipped; groups among them nest to a limited depth.
-/

namespace SwitchAgent.Protobuf

inductive WireType where
  | varint
  | fixed64
  | delimited
  | groupStart
  | groupEnd
  | fixed32
  deriving DecidableEq, Repr

namespace WireType

def code : WireType → Nat
  | varint => 0
  | fixed64 => 1
  | delimited => 2
  | groupStart => 3
  | groupEnd => 4
  | fixed32 => 5

def ofCode? : Nat → Option WireType
  | 0 => some varint
  | 1 => some fixed64
  | 2 => some delimited
  | 3 => some groupStart
  | 4 => some groupEnd
  | 5 => some fixed32
  | _ => none

end WireType

structure Key where
  number : Nat
  type : WireType
  deriving DecidableEq, Repr

namespace Key

def write (key : Key) : List UInt8 :=
  Varint.encode (key.number * 8 + key.type.code)

/-- Keys have 32 bits, and no field has the number 0. -/
def read (bytes : List UInt8) : Option (Key × List UInt8) := do
  let (n, rest) ← Varint.decode bytes
  let type ← WireType.ofCode? (n % 8)
  if n < UInt32.size ∧ n / 8 ≠ 0 then some (⟨n / 8, type⟩, rest) else none

end Key

def dropExactly (n : Nat) (bytes : List UInt8) : Option (List UInt8) :=
  if n ≤ bytes.length then some (bytes.drop n) else none

/-- A length and that many bytes. -/
def readDelimited (bytes : List UInt8) : Option (List UInt8 × List UInt8) := do
  let (n, rest) ← Varint.decode bytes
  if n ≤ rest.length then some (rest.take n, rest.drop n) else none

/-- Skip the fields of a group and the key that ends it. -/
def skipGroup (skip : Key → List UInt8 → Option (List UInt8)) (number : Nat) :
    Nat → List UInt8 → Option (List UInt8)
  | 0, _ => none
  | fuel + 1, bytes => do
    let (key, rest) ← Key.read bytes
    if key.type = .groupEnd then
      if key.number = number then some rest else none
    else skipGroup skip number fuel (← skip key rest)

/-- Skip the content of a field. -/
def skip : Nat → Key → List UInt8 → Option (List UInt8)
  | 0, _, _ => none
  | depth + 1, key, bytes =>
    match key.type with
    | .varint => (Varint.decode bytes).map (·.2)
    | .fixed64 => dropExactly 8 bytes
    | .delimited => (readDelimited bytes).map (·.2)
    | .groupStart => skipGroup (skip depth) key.number bytes.length bytes
    | .groupEnd => none
    | .fixed32 => dropExactly 4 bytes

/-- How deep messages and groups may nest. -/
def nesting : Nat := 100

section Reading

variable {α : Type}

/-- What a message knows of its fields: take one up, given its content and what follows. -/
abbrev Merge (α : Type) :=
  α → Key → List UInt8 → Option (α × List UInt8)

/-- Read field after field. Every one takes at least a byte. -/
def readFields (merge : Merge α) : Nat → α → List UInt8 → Option α
  | _, a, [] => some a
  | 0, _, _ :: _ => none
  | fuel + 1, a, bytes => do
    let (key, rest) ← Key.read bytes
    let (a, rest) ← merge a key rest
    readFields merge fuel a rest

def readMessage (merge : Merge α) (initial : α) (bytes : List UInt8) : Option α :=
  readFields merge bytes.length initial bytes

def readVarint (key : Key) (bytes : List UInt8) : Option (Nat × List UInt8) :=
  if key.type = .varint then Varint.decode bytes else none

def readBytes (key : Key) (bytes : List UInt8) : Option (List UInt8 × List UInt8) :=
  if key.type = .delimited then readDelimited bytes else none

end Reading

/-- A number; zero is left out. -/
def varintField (number value : Nat) : List UInt8 :=
  if value = 0 then [] else Key.write ⟨number, .varint⟩ ++ Varint.encode value

def delimitedField (number : Nat) (content : List UInt8) : List UInt8 :=
  Key.write ⟨number, .delimited⟩ ++ Varint.encode content.length ++ content

/-- Bytes; none are left out. -/
def bytesField (number : Nat) (content : List UInt8) : List UInt8 :=
  if content.isEmpty then [] else delimitedField number content

end SwitchAgent.Protobuf
