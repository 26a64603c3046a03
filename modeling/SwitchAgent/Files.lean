import SwitchAgent.Fault
import SwitchAgent.Text.Utf8

/-!
# Files

What is read at start-up, by path.
-/

namespace SwitchAgent

structure Files where
  find : String → Option (List UInt8)

namespace Files

def empty : Files :=
  ⟨fun _ => none⟩

def insert (files : Files) (path : String) (bytes : List UInt8) : Files :=
  ⟨fun p => if p = path then some bytes else files.find p⟩

def bytes (files : Files) (path : String) : Except FileError (List UInt8) :=
  match files.find path with
  | none => .error .missing
  | some bytes => .ok bytes

def text (files : Files) (path : String) : Except FileError String := do
  match Text.Utf8.decode (← files.bytes path) with
  | none => .error .notText
  | some text => .ok text

end Files

end SwitchAgent
