import SwitchAgent.Action
import SwitchAgent.Files
import SwitchAgent.Json.Form

/-!
# The catalog of a data plane program

The program's compiler lists what can be addressed at run time. Only names and ids are looked
at here; the whole document is kept for the switch. Whatever a document leaves out is empty.
-/

namespace SwitchAgent.Pipeline

open Json

/-- An object may be looked up by its full name or its short name. Id 0 means that it has none. -/
structure Preamble where
  id : UInt32 := 0
  name : String := ""
  shortName : String := ""
  deriving DecidableEq, Repr

structure Listed where
  preamble : Preamble := {}
  deriving DecidableEq, Repr

structure Contents where
  tables : List Listed := []
  actions : List Listed := []
  counters : List Listed := []
  digests : List Listed := []
  deriving DecidableEq, Repr

instance : Form Preamble where
  encode p := .object [("id", encode p.id), ("name", encode p.name), ("alias", encode p.shortName)]
  decode scope d := do
    let fields ← Fields.ofDocument ["id", "name", "alias"] scope d
    return ⟨← fields.withDefault "id" 0, ← fields.withDefault "name" "",
      ← fields.withDefault "alias" ""⟩

instance : Form Listed where
  encode l := .object [("preamble", encode l.preamble)]
  decode scope d := do
    let fields ← Fields.ofDocument ["preamble"] scope d
    return ⟨← fields.withDefault "preamble" {}⟩

instance : Form Contents where
  encode c := .object [("tables", encode c.tables), ("actions", encode c.actions),
    ("counters", encode c.counters), ("digests", encode c.digests)]
  decode scope d := do
    let fields ← Fields.ofDocument ["tables", "actions", "counters", "digests"] scope d
    return ⟨← fields.withDefault "tables" [], ← fields.withDefault "actions" [],
      ← fields.withDefault "counters" [], ← fields.withDefault "digests" []⟩

structure Catalog where
  contents : Contents
  /-- The document as it was read. -/
  document : Value
  deriving BEq, Repr

def Contents.text (c : Contents) : String :=
  s!"{c.tables.length} tables, {c.actions.length} actions, {c.counters.length} counters, "
    ++ s!"{c.digests.length} digests"

namespace Catalog

def ofText? (text : String) : Option Catalog := do
  let document : Value ← Json.read text
  return ⟨← readValue document, document⟩

variable {σ : Type}

def parse (text : String) : Action σ (Except Fault Catalog) := do
  match ofText? text with
  | none => return .error .invalidCatalog
  | some catalog =>
    Action.debug s!"P4 Info: {catalog.contents.text}"
    return .ok catalog

def load (files : Files) (path : String) : Action σ (Except Fault Catalog) :=
  match files.text path with
  | .error cause => return .error (.unreadableFile path cause)
  | .ok text => parse text

/-- The id of the first object that has one and goes by a name. -/
def findId (objects : List Listed) (name : String) : Option UInt32 :=
  ((objects.map Listed.preamble).find? fun p =>
    p.id != 0 && (p.name == name || p.shortName == name)).map Preamble.id

def tableId (catalog : Catalog) : String → Option UInt32 :=
  findId catalog.contents.tables

def actionId (catalog : Catalog) : String → Option UInt32 :=
  findId catalog.contents.actions

def counterId (catalog : Catalog) : String → Option UInt32 :=
  findId catalog.contents.counters

def digestId (catalog : Catalog) : String → Option UInt32 :=
  findId catalog.contents.digests

end Catalog

/-- The program itself, as the switch takes it. -/
def loadProgram {σ : Type} (files : Files) (path : String) :
    Action σ (Except Fault (List UInt8)) :=
  match files.bytes path with
  | .error cause => return .error (.unreadableFile path cause)
  | .ok bytes => do
    Action.debug s!"Loaded device config of {bytes.length} bytes from {path}"
    return .ok bytes

end SwitchAgent.Pipeline
