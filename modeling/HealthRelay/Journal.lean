/-!
What is written down about the work of a monitor, for whoever looks after it.
-/

namespace HealthRelay

inductive Level where
  | debug
  | info
  | warn
  | error
  deriving DecidableEq

/-- One remark, with what it is about by name. -/
structure Remark where
  level : Level
  text : String
  fields : List (String × String)
  deriving DecidableEq

end HealthRelay
