import SwitchAgent.Address.IsdAs
import SwitchAgent.Json.Form

/-!
# AS addresses in JSON
-/

namespace SwitchAgent

open Json

/-- The AS number is taken as it stands, whatever its size. -/
instance : Form IsdAs where
  encode a := .object [("isd", encode a.isd), ("asn", encode a.asn)]
  decode scope d := do
    let fields ← Fields.ofDocument ["isd", "asn"] scope d
    return ⟨← fields.required "isd", ← fields.required "asn"⟩

end SwitchAgent
