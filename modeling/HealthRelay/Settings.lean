import HealthRelay.Binary64
import HealthRelay.Duration
import HealthRelay.Table

/-!
The settings of one monitor: which plugin it talks to, how often, and how it behaves when the
plugin does not answer.
-/

namespace HealthRelay

/-- A condition that the monitor declares before its plugin has reported. -/
structure ConditionDefinition where
  type : String
  reason : String
  message : String
  deriving DecidableEq

/-- When and how often to try connecting again. -/
structure RetryPolicy where
  maxAttempts : UInt32
  multiplier : Binary64
  maxBackoff : Duration
  initialBackoff : Duration
  deriving DecidableEq

/-- How often the connection is looked after. -/
structure ProbePolicy where
  interval : Duration
  /-- The time limit of calls other than polls. -/
  timeout : Duration
  /-- How many counted failures in a row force a new connection. -/
  errorThreshold : UInt32
  deriving DecidableEq

/-- Where the plugin listens and how it is polled. -/
structure PluginSettings where
  socketAddress : String
  invokeInterval : Duration
  /-- The time limit of a poll. -/
  timeout : Duration
  skipInitialStatus : Bool
  retry : RetryPolicy
  probe : ProbePolicy
  /-- Passed to the plugin with every poll. -/
  parameters : Table String
  deriving DecidableEq

structure Settings where
  plugin : String
  pluginSettings : PluginSettings
  source : String
  metricsReporting : Bool
  conditions : List ConditionDefinition
  deriving DecidableEq

/-- The only kind of plugin there is. -/
def externalPlugin : String := "external"

/-- The least interval between polls, and the least time limit of a poll. -/
def minInterval : Duration := .ofSeconds 1

namespace RetryPolicy

/-- A policy with nothing set. -/
def unset : RetryPolicy := ⟨0, .zero, .zero, .zero⟩

def defaultMaxAttempts : UInt32 := 5
def defaultMultiplier : Binary64 := .ofNat 2
def defaultMaxBackoff : Duration := .ofSeconds 300
def defaultInitialBackoff : Duration := .ofSeconds 1

/-- Every zero filled in. -/
def withDefaults (p : RetryPolicy) : RetryPolicy where
  maxAttempts := if p.maxAttempts = 0 then defaultMaxAttempts else p.maxAttempts
  multiplier := if p.multiplier.isZero then defaultMultiplier else p.multiplier
  maxBackoff := if p.maxBackoff.isZero then defaultMaxBackoff else p.maxBackoff
  initialBackoff := if p.initialBackoff.isZero then defaultInitialBackoff else p.initialBackoff

end RetryPolicy

namespace ProbePolicy

/-- A policy with nothing set. -/
def unset : ProbePolicy := ⟨.zero, .zero, 0⟩

def defaultInterval : Duration := .ofSeconds 30
def defaultTimeout : Duration := .ofSeconds 5
def defaultErrorThreshold : UInt32 := 3

/-- Every zero filled in. -/
def withDefaults (p : ProbePolicy) : ProbePolicy where
  interval := if p.interval.isZero then defaultInterval else p.interval
  timeout := if p.timeout.isZero then defaultTimeout else p.timeout
  errorThreshold := if p.errorThreshold = 0 then defaultErrorThreshold else p.errorThreshold

end ProbePolicy

namespace PluginSettings

def defaultInvokeInterval : Duration := .ofSeconds 30
def defaultTimeout : Duration := .ofSeconds 10

/-- Every zero filled in. -/
def withDefaults (p : PluginSettings) : PluginSettings :=
  { p with
    invokeInterval := if p.invokeInterval.isZero then defaultInvokeInterval else p.invokeInterval
    timeout := if p.timeout.isZero then defaultTimeout else p.timeout
    retry := p.retry.withDefaults
    probe := p.probe.withDefaults }

end PluginSettings

namespace Settings

/-- Settings for a source and a socket with nothing else set. -/
def new (source socketAddress : String) : Settings where
  plugin := externalPlugin
  pluginSettings := ⟨socketAddress, .zero, .zero, false, .unset, .unset, .empty⟩
  source := source
  metricsReporting := false
  conditions := []

/-- Every zero filled in; metrics are always reported. -/
def withDefaults (s : Settings) : Settings :=
  { s with pluginSettings := s.pluginSettings.withDefaults, metricsReporting := true }

/-- How often the plugin is polled. -/
def pollInterval (s : Settings) : Duration := s.pluginSettings.invokeInterval

/-- The time limit of a poll. -/
def callTimeout (s : Settings) : Duration := s.pluginSettings.timeout

/-- How often the connection is looked after. -/
def probeInterval (s : Settings) : Duration := s.pluginSettings.probe.interval

/-- The time limit of calls other than polls. -/
def probeTimeout (s : Settings) : Duration := s.pluginSettings.probe.timeout

/-- How many counted failures in a row force a new connection. -/
def errorThreshold (s : Settings) : Nat := s.pluginSettings.probe.errorThreshold.toNat

end Settings

end HealthRelay
