/-! Records for the log. -/

namespace MasternodeBft

inductive Level where
  | debug
  | info
  | warn
  | error
deriving DecidableEq

namespace Level

def name : Level → String
  | debug => "DEBUG"
  | info => "INFO"
  | warn => "WARN"
  | error => "ERROR"

end Level

structure Notice where
  level : Level
  line : String
deriving DecidableEq

end MasternodeBft
