import SwitchAgent.Control.Controller

/-!
# The fallback controller

It stands at the bottom of the stack, takes whatever reaches it and says so.
-/

namespace SwitchAgent.Control

open Device

structure Fallback where
  deriving DecidableEq, Repr

namespace Fallback

def describe : Event → Log.Record
  | .packet packet => ⟨.info, s!"Unhandled packet ({packet.payload.length} bytes)"⟩
  | .digest list => ⟨.info, s!"Received unknown digest {list.digestId}"⟩
  | .idleTimeout notice =>
    ⟨.info, s!"Unhandled idle timeout notification ({notice.entries.length} entries)"⟩
  | .error report => ⟨.warn, s!"Stream error {report.code}: {report.message}"⟩

instance {C : Type} : Controller Fallback C where
  name _ := "default"
  handle fallback event := do
    let record := describe event
    Action.log record.level record.text
    return (fallback, .ok true)

end Fallback

end SwitchAgent.Control
