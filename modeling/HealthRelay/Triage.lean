import HealthRelay.Failure

/-!
What a failed call means for the connection.
-/

namespace HealthRelay

inductive Triage where
  /-- The plugin could not be reached for now. -/
  | transient
  /-- The plugin does not offer the call. -/
  | unsupported
  | other
  deriving DecidableEq

namespace Triage

/-- The failure counts towards a new connection. -/
def counts : Triage → Bool
  | .unsupported => false
  | .transient | .other => true

/-- The connection is taken to be down. -/
def disconnects : Triage → Bool
  | .transient => true
  | .unsupported | .other => false

end Triage

def StatusCode.triage : StatusCode → Triage
  | .unavailable | .deadlineExceeded => .transient
  | .unimplemented => .unsupported
  | _ => .other

def CallError.triage (e : CallError) : Triage := e.code.triage

end HealthRelay
