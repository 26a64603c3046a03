import SwitchAgent.Text.Numeral

/-!
# The command line

Options may stand anywhere before a double dash, each at most once. What is left over are the
values, in a fixed order. A command line that asks for help, or that cannot be understood, asks
for nothing to be done.
-/

namespace SwitchAgent.Agent

structure CommandLine where
  verbose : Bool := false
  settings : Option String := none
  catalog : String
  program : String
  switchAddress : String
  deviceId : UInt64
  electionId : UInt64
  asAddress : String
  nodeId : UInt32
  rules : String
  /-- Empty if reports are only to be logged. -/
  broker : String
  reportAddress : Option String
  deriving DecidableEq, Repr

namespace CommandLine

/-- The arguments, sorted into options and values. -/
structure Arguments where
  verbose : Bool := false
  settings : Option String := none
  values : List String := []

/-- Whether an argument is an option. A single dash is a value. -/
def isOption (argument : List Char) : Bool :=
  match argument with
  | '-' :: _ :: _ => true
  | _ => false

def Arguments.setVerbose (a : Arguments) : Option Arguments :=
  if a.verbose then none else some { a with verbose := true }

def Arguments.setSettings (a : Arguments) (path : String) : Option Arguments :=
  if a.settings.isSome ∨ path.isEmpty then none else some { a with settings := some path }

def settingsOption : List Char :=
  "--settings".toList

/-- The value that an option gives after an equals sign. -/
def attached (argument : List Char) : Option String :=
  let start := settingsOption ++ ['=']
  if start.isPrefixOf argument then some (String.ofList (argument.drop start.length)) else none

/-- Sort arguments, options first recognized and then values. -/
def sort : Arguments → List String → Option Arguments
  | a, [] => some a
  | a, "--" :: rest => some { a with values := a.values ++ rest }
  | a, "-v" :: rest => do sort (← a.setVerbose) rest
  | a, "--verbose" :: rest => do sort (← a.setVerbose) rest
  | a, "--settings" :: path :: rest => do
    if isOption path.toList then none else sort (← a.setSettings path) rest
  | a, argument :: rest =>
    match attached argument.toList with
    | some path => do sort (← a.setSettings path) rest
    | none =>
      if isOption argument.toList then none
      else sort { a with values := a.values ++ [argument] } rest

def readWord (limit : Nat) (s : String) : Option Nat :=
  (Text.readNumeral 10 limit s.toList).toOption

/-- A node id may be written with a minus sign if it is zero. -/
def readNodeId (s : String) : Option UInt32 := do
  let n ← (Text.readInteger 0x8000000000000000 s.toList).toOption
  if 0 ≤ n ∧ n < UInt32.size then some (UInt32.ofNat n.toNat) else none

def readPath (s : String) : Option String :=
  if s.isEmpty then none else some s

def ofArguments (a : Arguments) : Option CommandLine :=
  match a.values with
  | catalog :: program :: switchAddress :: deviceId :: electionId :: asAddress :: nodeId :: rules
      :: broker :: more => do
    let reportAddress ← match more with
      | [] => some none
      | [address] => some (some address)
      | _ => none
    return {
      verbose := a.verbose
      settings := a.settings
      catalog := ← readPath catalog
      program := ← readPath program
      switchAddress
      deviceId := UInt64.ofNat (← readWord UInt64.size deviceId)
      electionId := UInt64.ofNat (← readWord UInt64.size electionId)
      asAddress
      nodeId := ← readNodeId nodeId
      rules := ← readPath rules
      broker
      reportAddress }
  | _ => none

def parse (arguments : List String) : Option CommandLine :=
  (sort {} arguments).bind ofArguments

/-- The files that are read. -/
def paths (c : CommandLine) : List String :=
  c.settings.toList ++ [c.catalog, c.program, c.rules]

end CommandLine

end SwitchAgent.Agent
