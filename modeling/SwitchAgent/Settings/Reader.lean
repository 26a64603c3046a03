import SwitchAgent.Files
import SwitchAgent.Path
import SwitchAgent.Settings.Layers

/-!
# Readers of settings

The extension of a file tells its format. A path may leave the extension out: the extensions are
then tried one after the other, in an order that differs from run to run. So does the order in which
keys are taken.
-/

namespace SwitchAgent.Settings

inductive Format where
  | toml
  | json
  | yaml
  | ini
  | ron
  | json5
  deriving DecidableEq, Repr

namespace Format

def all : List Format :=
  [toml, json, yaml, ini, ron, json5]

theorem mem_all (format : Format) : format ∈ all := by
  cases format <;> decide

def extensions : Format → List String
  | toml => ["toml"]
  | json => ["json"]
  | yaml => ["yaml", "yml"]
  | ini => ["ini"]
  | ron => ["ron"]
  | json5 => ["json5"]

def ofExtension? (extension : String) : Option Format :=
  all.find? (·.extensions.contains extension)

end Format

/-- What is left open about reading: the order in which formats are tried and that in which keys are
taken, and what is read of a text in any format but TOML. -/
structure Reader where
  order : List Format
  whole (format : Format) : format ∈ order
  arrange : Layer → Layer
  perm (layer : Layer) : (arrange layer).Perm layer
  foreign : Format → String → Option Layer
  /-- No key stands twice in a table. -/
  apart {format : Format} {text : String} {layer : Layer}
    (read : foreign format text = some layer) : (layer.map Prod.fst).Nodup

namespace Reader

/-- Nothing but TOML is read, and keys are taken as they stand. -/
def tomlOnly : Reader where
  order := Format.all
  whole := Format.mem_all
  arrange layer := layer
  perm _ := .refl _
  foreign _ _ := none
  apart := nofun

/-- The files that are looked for in place of one that is not there. -/
def candidates (reader : Reader) (path : String) : List (Format × String) :=
  reader.order.flatMap fun format =>
    format.extensions.filterMap fun extension =>
      (Path.extend? path extension).map fun found => (format, found)

/-- The file that a path leads to, and its format. A file of that very name counts before all
others, and is refused if its extension tells no format. -/
def locate (reader : Reader) (files : Files) (path : String) : Option (Format × String) :=
  if (files.find path).isSome then
    ((Path.extension? path).bind Format.ofExtension?).map fun format => (format, path)
  else (reader.candidates path).find? fun candidate => (files.find candidate.2).isSome

end Reader

end SwitchAgent.Settings
