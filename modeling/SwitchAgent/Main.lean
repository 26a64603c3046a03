import SwitchAgent.Agent.Run

/-!
# The command line program

The switch speaks on standard input and is spoken to on standard output, so that any transport
can be put around the program. Log records go to standard error. There is no stream of reports.
-/

namespace SwitchAgent.Main

open Agent

def readFiles (paths : List String) : IO Files := do
  let mut files := Files.empty
  for path in paths do
    try
      let bytes ← IO.FS.readBinFile path
      files := files.insert path bytes.toList
    catch _ => pure ()
  return files

/-- The files of a command line, and those that its settings may stand in instead. -/
def pathsOf (c : CommandLine) : List String :=
  c.paths ++ c.settings.toList.flatMap fun path =>
    (Settings.Reader.tomlOnly.candidates path).map Prod.snd

def variableNames : List String :=
  Settings.defaults.map fun entry => "P4CP_" ++ entry.1.toUpper

def readEnvironment : IO (List (String × String)) := do
  let mut environment := []
  for name in variableNames do
    if let some value ← IO.getEnv name then
      environment := environment ++ [(name, value)]
  return environment

/-- Every switch is the one on standard input. -/
def network (switchAddress : String) (incoming : List UInt8) : Network := fun endpoint =>
  if (Endpoint.ofSocketAddress switchAddress).toOption = some endpoint then .accepted incoming
  else .refused "no transport"

def isShown (verbose : Bool) (record : Log.Record) : Bool :=
  verbose || record.level != .debug

partial def readAll (stream : IO.FS.Stream) (before : ByteArray) : IO ByteArray := do
  let more ← stream.read 65536
  if more.isEmpty then return before else readAll stream (before ++ more)

def run (c : CommandLine) : IO UInt32 := do
  let incoming ← readAll (← IO.getStdin) .empty
  let world : World :=
    { files := ← readFiles (pathsOf c)
      environment := ← readEnvironment
      network := network c.switchAddress incoming.toList }
  let outcome := Agent.run c world ()
  for record in outcome.log do
    if isShown c.verbose record then IO.eprintln s!"[{record.level.name}] {record.text}"
  let out ← IO.getStdout
  out.write outcome.value.sent.toByteArray
  out.flush
  if let some failure := outcome.value.failure then
    IO.eprintln s!"Error: {failure.message}"
  return outcome.value.exitCode

end SwitchAgent.Main

def main (arguments : List String) : IO UInt32 := do
  match SwitchAgent.Agent.CommandLine.parse arguments with
  | none => return 0
  | some c => SwitchAgent.Main.run c
