import SwitchAgent.Address.Endpoint

/-!
# Reach

What comes of a connection to an endpoint: it is accepted, refused, or never answered.
-/

namespace SwitchAgent

namespace Network

inductive Reach where
  /-- The other side sends these bytes and then ends its half. Of what is written to it, it refuses
  the writes with these numbers. -/
  | connected (incoming : List UInt8) (refuses : Nat → Bool)
  | refused (reason : String)
  | silent

/-- The other side takes all that is written to it. -/
def Reach.accepted (incoming : List UInt8) : Reach :=
  .connected incoming fun _ => false

end Network

abbrev Network := Endpoint → Network.Reach

end SwitchAgent
