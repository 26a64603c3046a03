import SwitchAgent.Action

/-!
# Links

The outgoing half of a connection. A write goes out whole or is refused.
-/

namespace SwitchAgent.Network

structure Link where
  /-- What went out, write by write. -/
  written : List (List UInt8) := []
  /-- How many writes there were, refused ones included. -/
  count : Nat := 0
  refuses : Nat → Bool := fun _ => false

namespace Link

/-- Everything that the other side got. -/
def delivered (link : Link) : List UInt8 :=
  link.written.flatten

/-- The reason that is given for a refused write. -/
def refusal : String :=
  "Broken pipe (os error 32)"

/-- Whether the write went out. -/
def send (bytes : List UInt8) : Action Link Bool := do
  let link ← Action.get
  if link.refuses link.count then
    Action.set { link with count := link.count + 1 }
    return false
  else
    Action.set { link with written := link.written ++ [bytes], count := link.count + 1 }
    return true

/-- The other side is gone: every later write is refused. -/
def cut (link : Link) : Link :=
  { link with refuses := fun n => decide (link.count ≤ n) || link.refuses n }

end Link

end SwitchAgent.Network
