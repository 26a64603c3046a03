import SwitchAgent.Network.Link
import SwitchAgent.Network.Reach

/-!
# Streams of reports

Reports one after the other on a byte stream, each after its length in four bytes, the least
significant first. The stream is connected once; when it fails it stays silent from then on.
-/

namespace SwitchAgent.Telemetry

open Network

structure FrameStream where
  link : Link := {}
  active : Bool

namespace FrameStream

def disabled : FrameStream :=
  { active := false }

def ofLink (link : Link) : FrameStream :=
  ⟨link, true⟩

/-- A length in four bytes, if it fits. -/
def frameHeader (length : Nat) : Option (List UInt8) :=
  if length < UInt32.size then
    some [UInt8.ofNat length, UInt8.ofNat (length / 0x100), UInt8.ofNat (length / 0x10000),
      UInt8.ofNat (length / 0x1000000)]
  else none

def send (report : List UInt8) : Action FrameStream Unit := do
  if (← Action.get).active then
    match frameHeader report.length with
    | none => Action.warn s!"Report of {report.length} bytes exceeds the frame size, dropped"
    | some header => do
      let sent ← (Link.send (header ++ report)).within FrameStream.link
        fun stream link => { stream with link }
      unless sent do
        Action.info s!"TCP connection was closed: {Link.refusal}"
        Action.modify fun stream => { stream with active := false }

def readHeader : List UInt8 → Option (Nat × List UInt8)
  | a :: b :: c :: d :: rest =>
    some (a.toNat + 0x100 * b.toNat + 0x10000 * c.toNat + 0x1000000 * d.toNat, rest)
  | _ => none

/-- Cut a stream into its reports, as far as they are whole, and what is left over. -/
def cutWithin : Nat → List UInt8 → List (List UInt8) × List UInt8
  | 0, bytes => ([], bytes)
  | fuel + 1, bytes =>
    match readHeader bytes with
    | none => ([], bytes)
    | some (length, rest) =>
      if length ≤ rest.length then
        let (reports, rest') := cutWithin fuel (rest.drop length)
        (rest.take length :: reports, rest')
      else ([], bytes)

/-- Every report takes four bytes at least. -/
def cut (bytes : List UInt8) : List (List UInt8) × List UInt8 :=
  cutWithin bytes.length bytes

variable {σ : Type}

/-- Connect to a server. An empty address asks for no stream; one that cannot be used gives none
either. -/
def connect (network : Network) (address : String) : Action σ FrameStream := do
  if address.isEmpty then return disabled
  match Endpoint.split address with
  | .error fault => do
    Action.warn s!"Invalid TCP report address: {fault.message}. TCP server is not used."
    return disabled
  | .ok endpoint =>
    match network endpoint with
    | .connected _ refuses => do
      Action.info s!"Streaming telemetry reports to {address}"
      return ofLink { refuses }
    | .refused reason => do
      Action.warn <|
        s!"Could not connect to TCP server {address}: {reason}. TCP server is not used."
      return disabled
    | .silent => do
      Action.warn s!"Connecting to TCP server {address} timed out. TCP server is not used."
      return disabled

end FrameStream

end SwitchAgent.Telemetry
