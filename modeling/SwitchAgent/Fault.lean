import SwitchAgent.Text.Numeral

/-!
# What can go wrong

Every cause of failure has a constructor of its own. Its kind decides whether the agent may
go on: configuration and protocol faults are fatal, all others concern one event only.
-/

namespace SwitchAgent

open Text (NumeralError)

namespace Fault

inductive Kind where
  | config
  | protocol
  | malformed
  | transport
  | serialization
  | io
  | json
  deriving DecidableEq, Repr

namespace Kind

def name : Kind → String
  | config => "Config"
  | protocol => "Protocol"
  | malformed => "Malformed"
  | transport => "Transport"
  | serialization => "Serialization"
  | io => "Io"
  | json => "Json"

def all : List Kind :=
  [config, protocol, malformed, transport, serialization, io, json]

def ofName? (s : String) : Option Kind :=
  all.find? fun kind => kind.name == s

/-- How the message of a fault starts. -/
def heading : Kind → String
  | .config => "Configuration error: "
  | .protocol => "Protocol violation: "
  | .malformed => "Malformed packet: "
  | .transport => "Transport error: "
  | .serialization => "Serialization error: "
  | .io => "I/O error: "
  | .json => "JSON error: "

def isFatal : Kind → Bool
  | config | protocol => true
  | _ => false

end Kind

end Fault

inductive FileError where
  | missing
  | notText
  deriving DecidableEq, Repr

def FileError.message : FileError → String
  | .missing => "No such file or directory (os error 2)"
  | .notText => "stream did not contain valid UTF-8"

inductive Fault where
  | invalidIsdAs (text : String)
  | invalidIsd (text : String) (cause : NumeralError)
  | invalidAs (text : String) (cause : NumeralError)
  | missingPort (address : String)
  | invalidPort (address : String) (cause : NumeralError)
  | unreadableFile (path : String) (cause : FileError)
  | invalidCatalog
  | unreadableRules (path : String) (cause : FileError)
  | incompleteRule (line : String)
  | invalidBitmask (value line : String) (cause : NumeralError)
  | missingDigest (name : String)
  | missingCounter (name : String)
  | digestShape
  | digestMembers
  | digestWidths (mac port : Nat)
  | seekBeyond (position size : Nat)
  | underflow (length offset size : Nat)
  | noHeaderLength (size : Nat)
  | headerBeyond (length size : Nat)
  | headerShort (length : Nat)
  | stackTooSmall
  | stackUneven (stack hop : Nat)
  | timedOut (address : String)
  | unreachable (address reason : String)
  | streamWrite
  | streamRead
  | noReply
  | refused (message : String) (code : Int)
  | pipelineFailed (cause : Fault)
  | writeFailed (cause : Fault)
  /-- A fault raised outside this library, which only its kind and wording are known of. -/
  | stated (kind : Fault.Kind) (text : String)
  deriving DecidableEq, Repr

namespace Fault

def kind : Fault → Kind
  | invalidIsdAs _ | invalidIsd _ _ | invalidAs _ _ | missingPort _ | invalidPort _ _
  | unreadableFile _ _ | invalidCatalog | unreadableRules _ _ | incompleteRule _
  | invalidBitmask _ _ _ | missingDigest _ | missingCounter _ => .config
  | digestShape | digestMembers | digestWidths _ _ => .protocol
  | seekBeyond _ _ | underflow _ _ _ | noHeaderLength _ | headerBeyond _ _ | headerShort _
  | stackTooSmall | stackUneven _ _ => .malformed
  | timedOut _ | unreachable _ _ | streamWrite | streamRead | noReply | refused _ _
  | pipelineFailed _ | writeFailed _ => .transport
  | stated kind _ => kind

def isFatal (fault : Fault) : Bool :=
  fault.kind.isFatal

def text : Fault → String
  | invalidIsdAs text => s!"Invalid ISD-AS address '{text}'"
  | invalidIsd text cause => s!"Invalid ISD in '{text}': {cause.message}"
  | invalidAs text cause => s!"Invalid AS in '{text}': {cause.message}"
  | missingPort address => s!"Missing port in address '{address}'"
  | invalidPort address cause => s!"Invalid port in address '{address}': {cause.message}"
  | unreadableFile path cause => s!"File not found: {path}: {cause.message}"
  | invalidCatalog => "Invalid P4 Info"
  | unreadableRules path cause => s!"Failed to open INT table {path}: {cause.message}"
  | incompleteRule line => s!"Incomplete INT rule '{line}'"
  | invalidBitmask value line cause =>
    s!"Invalid bitmask '{value}' in rule '{line}': {cause.message}"
  | missingDigest name => s!"P4Info does not contain a digest of the name {name}"
  | missingCounter name => s!"P4Info does not contain a counter of the name {name}"
  | digestShape => "Invalid digest format"
  | digestMembers => "Invalid digest format: members must be bitstrings"
  | digestWidths mac port =>
    s!"Invalid digest format: got {mac} byte MAC and {port} byte port, expected 6 and 2"
  | seekBeyond position size =>
    s!"Cannot seek to offset {position} in a buffer of {size} bytes"
  | underflow length offset size =>
    s!"Buffer underflow: {length} bytes at offset {offset} requested but only {size} available"
  | noHeaderLength size => s!"Received INT stack with invalid length ({size} bytes)"
  | headerBeyond length size => s!"Header length {length} exceeds payload of {size} bytes"
  | headerShort length => s!"Header length {length} too short"
  | stackTooSmall => "Received INT stack with invalid length"
  | stackUneven stack hop =>
    s!"Received INT stack with invalid length: stack {stack} is no multiple of hop size {hop}"
  | timedOut address => s!"Not connected: {address} timed out"
  | unreachable address reason => s!"Not connected: {address}: {reason}"
  | streamWrite => "Stream write failed"
  | streamRead => "Stream read failed"
  | noReply => "Stream closed while waiting for a reply"
  | refused message code => s!"{message} (code {code})"
  | pipelineFailed cause =>
    "Setting pipeline config failed: " ++ cause.kind.heading ++ cause.text
  | writeFailed cause => "Write request failed: " ++ cause.kind.heading ++ cause.text
  | stated _ text => text

def message (fault : Fault) : String :=
  fault.kind.heading ++ fault.text

theorem isFatal_iff (fault : Fault) :
    fault.isFatal = true ↔ fault.kind = .config ∨ fault.kind = .protocol := by
  unfold isFatal
  cases fault.kind <;> simp [Kind.isFatal]

end Fault

end SwitchAgent
