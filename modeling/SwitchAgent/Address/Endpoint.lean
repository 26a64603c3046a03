import SwitchAgent.Fault
import SwitchAgent.Text.Blank

/-!
# Hosts and ports

Two readings of `host:port`. The lenient one takes the first two fields between colons and
ignores any others; the strict one, for the switch itself, takes the port after the last colon.
-/

namespace SwitchAgent

structure Endpoint where
  host : String
  port : UInt16
  deriving DecidableEq, Repr

namespace Endpoint

/-- An empty address stands for no endpoint: an empty host and port 0. -/
def split (address : String) : Except Fault Endpoint :=
  if address.isEmpty then .ok ⟨"", 0⟩
  else match Text.pieces (· == ':') address.toList with
    | host :: port :: _ =>
      match Text.readNumeral 10 0x10000 port with
      | .ok port => .ok ⟨String.ofList host, UInt16.ofNat port⟩
      | .error cause => .error (.invalidPort address cause)
    | _ => .error (.missingPort address)

inductive SocketError where
  | noPort
  | invalidPort
  deriving DecidableEq, Repr

def SocketError.message : SocketError → String
  | .noPort => "invalid socket address"
  | .invalidPort => "invalid port value"

def ofSocketAddress (address : String) : Except SocketError Endpoint :=
  match Text.cutOnce ':' address.toList.reverse with
  | none => .error .noPort
  | some (port, host) =>
    match Text.readNumeral 10 0x10000 port.reverse with
    | .ok port => .ok ⟨String.ofList host.reverse, UInt16.ofNat port⟩
    | .error _ => .error .invalidPort

end Endpoint

end SwitchAgent
