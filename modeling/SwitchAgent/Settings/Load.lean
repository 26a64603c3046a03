import SwitchAgent.Device.Profile
import SwitchAgent.Settings.Reader
import SwitchAgent.Toml.Reader

/-!
# Loading settings

Built-in values come first, then a file if one is given, then the environment. Whatever else
they hold is ignored; a setting that cannot be taken for a count spoils them all.
-/

namespace SwitchAgent

structure Settings where
  profile : Device.Profile := {}
  /-- How many seconds a connection may take. -/
  connectTimeout : UInt64 := 10
  deriving DecidableEq, Repr

namespace Settings

def defaults : Entries :=
  let d : Settings := {}
  [("num_switch_ports", .scalar (.integer d.profile.ports.toNat)),
    ("cpu_port", .scalar (.integer d.profile.cpuPort.toNat)),
    ("clone_session_id", .scalar (.integer d.profile.cloneSession.toNat)),
    ("tx_util_entries", .scalar (.integer d.profile.linkUseEntries.toNat)),
    ("connect_timeout_secs", .scalar (.integer d.connectTimeout.toNat))]

/-- A document that is no table sets nothing. -/
def layerOfDocument : Toml.Value → Layer
  | .table members => members.map fun m => (m.1, Change.ofToml m.2)
  | _ => []

def layerOfText (text : String) : Option Layer :=
  (Toml.read text).map layerOfDocument

/-- How the names of variables start, in any case. -/
def variablePrefix : List Char :=
  ['p', '4', 'c', 'p', '_']

def layerOfEnvironment (environment : List (String × String)) : Layer :=
  environment.filterMap fun v =>
    let name := Text.lower v.1.toList
    if variablePrefix.isPrefixOf name then
      some (String.ofList (name.drop variablePrefix.length), .scalar (.ofUntyped v.2))
    else none

def count? (entries : Entries) (name : String) : Option UInt64 :=
  match entries.lookup name with
  | some (.scalar s) => s.count?
  | _ => none

/-- Only the low 32 bits of a count are kept where no more fit. -/
def ofEntries (entries : Entries) : Option Settings := do
  let ports ← count? entries "num_switch_ports"
  let cpuPort ← count? entries "cpu_port"
  let cloneSession ← count? entries "clone_session_id"
  let linkUseEntries ← count? entries "tx_util_entries"
  let connectTimeout ← count? entries "connect_timeout_secs"
  return {
    profile := {
      ports := ports.toUInt32
      cpuPort := cpuPort.toUInt32
      cloneSession := cloneSession.toUInt32
      linkUseEntries := linkUseEntries.toUInt32 }
    connectTimeout }

def Reader.layer? (reader : Reader) : Format → String → Option Layer
  | .toml, text => layerOfText text
  | format, text => reader.foreign format text

/-- The layer of a file, if one is asked for. -/
def fileLayer (reader : Reader) (files : Files) : Option String → Option Layer
  | none => some []
  | some path => do
    let (format, found) ← reader.locate files path
    reader.layer? format (← (files.text found).toOption)

def load (files : Files) (path : Option String) (environment : List (String × String))
    (reader : Reader := .tomlOnly) : Option Settings := do
  let layer ← fileLayer reader files path
  ofEntries <| (defaults.applyAll (reader.arrange layer)).applyAll <|
    reader.arrange (layerOfEnvironment environment)

end Settings

end SwitchAgent
