import HealthRelay.Failure
import HealthRelay.Settings

/-!
Which settings a monitor can run with.

The demands are listed in one order, and the first that is not met is the error.
-/

namespace HealthRelay

/-- The first text of a condition that is empty. -/
def ConditionDefinition.emptyField? (c : ConditionDefinition) : Option String :=
  if c.type.isEmpty then some "type"
  else if c.reason.isEmpty then some "reason"
  else if c.message.isEmpty then some "message"
  else none

namespace Settings

/-- The first condition from the `index`-th on that lacks a text. -/
def incomplete? (index : Nat) : List ConditionDefinition → Option SettingsError
  | [] => none
  | c :: rest =>
    match c.emptyField? with
    | some field => some (.incompleteCondition index field)
    | none => incomplete? (index + 1) rest

/-- Accepts settings that meet every demand; otherwise the first one not met is the error. -/
def check (s : Settings) : Except SettingsError Unit :=
  let p := s.pluginSettings
  if s.plugin ≠ externalPlugin then .error (.invalidPlugin s.plugin)
  else if s.source.isEmpty then .error (.missingField "source")
  else if p.socketAddress.isEmpty then .error (.missingField "pluginConfig.socketAddress")
  else if p.invokeInterval < minInterval then .error (.intervalTooShort p.invokeInterval)
  else if p.timeout < minInterval then .error (.timeoutTooShort p.timeout)
  else if p.invokeInterval ≤ p.timeout then
    .error (.timeoutNotBelowInterval p.timeout p.invokeInterval)
  else if p.retry.maxAttempts = 0 then .error .maxAttemptsTooLow
  else if !p.retry.multiplier.atLeastOne then .error (.multiplierTooLow p.retry.multiplier)
  else if p.probe.errorThreshold = 0 then .error .errorThresholdTooLow
  else if p.probe.interval.isZero then .error .probeIntervalZero
  else (incomplete? 0 s.conditions).elim (.ok ()) .error

end Settings

end HealthRelay
