import SwitchAgent.Control.Fallback
import SwitchAgent.Learning.Controller
import SwitchAgent.Telemetry.Controller

/-!
# The features of the agent
-/

namespace SwitchAgent.Agent

open Control

/-- A controller of the agent's stack, by its feature. -/
inductive Feature (P : Type) where
  | fallback (controller : Fallback)
  | learning (controller : Learning.Controller)
  | telemetry (controller : Telemetry.Controller P)

variable {P C : Type} [Telemetry.Publisher P] [Channel C]

instance : Controller (Feature P) C where
  name
    | .fallback c => Controller.name C c
    | .learning c => Controller.name C c
    | .telemetry c => Controller.name C c
  arbitrate
    | .fallback c, update => do
      let (c, result) ← Controller.arbitrate c update
      return (.fallback c, result)
    | .learning c, update => do
      let (c, result) ← Controller.arbitrate c update
      return (.learning c, result)
    | .telemetry c, update => do
      let (c, result) ← Controller.arbitrate c update
      return (.telemetry c, result)
  handle
    | .fallback c, event => do
      let (c, result) ← Controller.handle c event
      return (.fallback c, result)
    | .learning c, event => do
      let (c, result) ← Controller.handle c event
      return (.learning c, result)
    | .telemetry c, event => do
      let (c, result) ← Controller.handle c event
      return (.telemetry c, result)

end SwitchAgent.Agent
