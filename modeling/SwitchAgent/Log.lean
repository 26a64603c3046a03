/-!
# Log records
-/

namespace SwitchAgent

namespace Log

inductive Level where
  | error
  | warn
  | info
  | debug
  deriving DecidableEq, Repr

def Level.name : Level → String
  | error => "ERROR"
  | warn => "WARN"
  | info => "INFO"
  | debug => "DEBUG"

structure Record where
  level : Level
  text : String
  deriving DecidableEq, Repr

end Log

abbrev Log := List Log.Record

end SwitchAgent
