import SwitchAgent.Control.Channel

/-!
# Controllers

A controller looks after one feature. It keeps a state of its own and may use the channel
whenever it is called.
-/

namespace SwitchAgent.Control

open Device

class Controller (σ C : Type) where
  /-- How the controller is called in log records. -/
  name : σ → String
  /-- Learn who was elected. -/
  arbitrate : σ → Arbitration → Action C (σ × Except Fault Unit) :=
    fun s _ => pure (s, .ok ())
  /-- Take an event, or leave it to the controllers further down. -/
  handle : σ → Event → Action C (σ × Except Fault Bool) :=
    fun s _ => pure (s, .ok false)

end SwitchAgent.Control
