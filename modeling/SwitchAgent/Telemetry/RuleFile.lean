import SwitchAgent.Action
import SwitchAgent.Files
import SwitchAgent.Telemetry.RuleTable

/-!
# Rule tables in files
-/

namespace SwitchAgent.Telemetry.RuleTable

def load {σ : Type} (files : Files) (path : String) : Action σ (Except Fault RuleTable) :=
  match files.text path with
  | .error cause => return .error (.unreadableRules path cause)
  | .ok text =>
    match parse text with
    | .error fault => return .error fault
    | .ok rules => do
      Action.debug s!"Read {rules.length} INT rules from {path}"
      return .ok rules

end SwitchAgent.Telemetry.RuleTable
