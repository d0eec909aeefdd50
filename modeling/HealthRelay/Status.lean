import HealthRelay.Settings
import HealthRelay.Timestamp

/-!
What a plugin reports: notices that are always passed on, and conditions that are passed on when
they change.
-/

namespace HealthRelay

inductive Severity where
  | info
  | warn
  deriving DecidableEq

/-- Whether the problem that a condition names is there. -/
inductive Presence where
  | present
  | absent
  | unknown
  deriving DecidableEq

/-- A passing notice. -/
structure Event where
  severity : Severity
  timestamp : Timestamp
  reason : String
  message : String
  deriving DecidableEq

/-- A lasting fact about health. -/
structure Condition where
  type : String
  status : Presence
  transition : Timestamp
  reason : String
  message : String
  deriving DecidableEq

/-- The two say the same. When they came to say so does not count: plugins stamp every report. -/
def Condition.sameState (a b : Condition) : Bool :=
  a.type == b.type && a.status = b.status && a.reason == b.reason && a.message == b.message

/-- One report. -/
structure Status where
  source : String
  events : List Event
  conditions : List Condition
  deriving DecidableEq

namespace Status

instance : Inhabited Status := ⟨⟨"", [], []⟩⟩

/-- The report before the first: every declared condition, its problem absent. -/
def initial (source : String) (definitions : List ConditionDefinition) (now : Timestamp) :
    Status where
  source := source
  events := []
  conditions := definitions.map fun d => ⟨d.type, .absent, now, d.reason, d.message⟩

/-- The conditions say the same, one by one. -/
def conditionsEqual (a b : List Condition) : Bool :=
  a.length == b.length && (a.zip b).all fun (x, y) => x.sameState y

/-- Whether a report is passed on after the last one that was: the first always, and later ones if
they have events or their conditions have changed. -/
def shouldEmit (last : Option Status) (next : Status) : Bool :=
  match last with
  | none => true
  | some last => !next.events.isEmpty || !conditionsEqual last.conditions next.conditions

end Status

end HealthRelay
