import HealthRelay.Duration.Reading
import HealthRelay.Failure
import HealthRelay.Json.Reader
import HealthRelay.Json.Value
import HealthRelay.Settings

/-!
Settings as JSON text, both ways.

Spans of time are written as text with a unit and read from that or from whole nanoseconds.
Everything but the plugin, its socket and the source may be left out.
-/

namespace HealthRelay

open Json

/-- Reads a span of time. -/
def Duration.read : Reader Duration := fun o =>
  let wanted := "integer nanoseconds or a duration string such as \"30s\""
  match o with
  | .number n =>
    match number? n with
    | none => .error .malformed
    | some (.natural v) => (ofNanos? v).elim (mismatch wanted o) .ok
    | some (.negative _) => .error (.content "duration cannot be negative")
    | some (.real _) => mismatch wanted o
  | .string (some s) =>
    match parse s with
    | .ok d => .ok d
    | .error fault => .error (.content (SettingsError.invalidDuration s fault.message).message)
  | o => mismatch wanted o

def Duration.toJson (d : Duration) : Json := .string d.text

namespace ConditionDefinition

def typeField : RecordField String := ⟨"type", readString, none⟩
def reasonField : RecordField String := ⟨"reason", readString, none⟩
def messageField : RecordField String := ⟨"message", readString, none⟩

def read : Reader ConditionDefinition := fun o => do
  let m ← readMembers "ConditionDefinition"
    [typeField.expected, reasonField.expected, messageField.expected] o
  return ⟨← typeField.of m, ← reasonField.of m, ← messageField.of m⟩

def toJson (c : ConditionDefinition) : Json :=
  .object [("type", .string c.type), ("reason", .string c.reason), ("message", .string c.message)]

end ConditionDefinition

namespace RetryPolicy

def maxAttemptsField : RecordField UInt32 := ⟨"maxAttempts", readUInt32, some 0⟩
def multiplierField : RecordField Binary64 := ⟨"backoffMultiplier", readBinary64, some .zero⟩
def maxBackoffField : RecordField Duration := ⟨"maxBackoff", Duration.read, some .zero⟩
def initialBackoffField : RecordField Duration := ⟨"initialBackoff", Duration.read, some .zero⟩

def read : Reader RetryPolicy := fun o => do
  let m ← readMembers "RetryPolicy"
    [maxAttemptsField.expected, multiplierField.expected, maxBackoffField.expected,
      initialBackoffField.expected] o
  return ⟨← maxAttemptsField.of m, ← multiplierField.of m, ← maxBackoffField.of m,
    ← initialBackoffField.of m⟩

def toJson (p : RetryPolicy) : Json :=
  .object [
    ("maxAttempts", .ofNat p.maxAttempts.toNat),
    ("backoffMultiplier", .ofBinary64 p.multiplier),
    ("maxBackoff", p.maxBackoff.toJson),
    ("initialBackoff", p.initialBackoff.toJson)]

end RetryPolicy

namespace ProbePolicy

def intervalField : RecordField Duration := ⟨"interval", Duration.read, some .zero⟩
def timeoutField : RecordField Duration := ⟨"timeout", Duration.read, some .zero⟩
def errorThresholdField : RecordField UInt32 := ⟨"errorThreshold", readUInt32, some 0⟩

def read : Reader ProbePolicy := fun o => do
  let m ← readMembers "HealthCheckConfig"
    [intervalField.expected, timeoutField.expected, errorThresholdField.expected] o
  return ⟨← intervalField.of m, ← timeoutField.of m, ← errorThresholdField.of m⟩

def toJson (p : ProbePolicy) : Json :=
  .object [
    ("interval", p.interval.toJson),
    ("timeout", p.timeout.toJson),
    ("errorThreshold", .ofNat p.errorThreshold.toNat)]

end ProbePolicy

namespace PluginSettings

def socketAddressField : RecordField String := ⟨"socketAddress", readString, none⟩
def invokeIntervalField : RecordField Duration := ⟨"invoke_interval", Duration.read, some .zero⟩
def timeoutField : RecordField Duration := ⟨"timeout", Duration.read, some .zero⟩
def skipInitialStatusField : RecordField Bool := ⟨"skip_initial_status", readBool, some false⟩
def retryField : RecordField RetryPolicy := ⟨"retryPolicy", RetryPolicy.read, some .unset⟩
def probeField : RecordField ProbePolicy := ⟨"healthCheck", ProbePolicy.read, some .unset⟩
def parametersField : RecordField (Table String) :=
  ⟨"pluginParameters", readTable readString, some .empty⟩

def read : Reader PluginSettings := fun o => do
  let m ← readMembers "PluginConfig"
    [socketAddressField.expected, invokeIntervalField.expected, timeoutField.expected,
      skipInitialStatusField.expected, retryField.expected, probeField.expected,
      parametersField.expected] o
  return {
    socketAddress := ← socketAddressField.of m
    invokeInterval := ← invokeIntervalField.of m
    timeout := ← timeoutField.of m
    skipInitialStatus := ← skipInitialStatusField.of m
    retry := ← retryField.of m
    probe := ← probeField.of m
    parameters := ← parametersField.of m }

/-- The members, with the parameters in the given order. -/
def toJsonIn (order : List (String × String)) (p : PluginSettings) : Json :=
  .object [
    ("socketAddress", .string p.socketAddress),
    ("invoke_interval", p.invokeInterval.toJson),
    ("timeout", p.timeout.toJson),
    ("skip_initial_status", .bool p.skipInitialStatus),
    ("retryPolicy", p.retry.toJson),
    ("healthCheck", p.probe.toJson),
    ("pluginParameters", .object (order.map fun e => (e.1, .string e.2)))]

def toJson (p : PluginSettings) : Json := p.toJsonIn p.parameters.entries

end PluginSettings

namespace Settings

def pluginField : RecordField String := ⟨"plugin", readString, none⟩
def pluginSettingsField : RecordField PluginSettings := ⟨"pluginConfig", PluginSettings.read, none⟩
def sourceField : RecordField String := ⟨"source", readString, none⟩
def metricsReportingField : RecordField Bool := ⟨"metricsReporting", readBool, some false⟩
def conditionsField : RecordField (List ConditionDefinition) :=
  ⟨"conditions", readArray ConditionDefinition.read, some []⟩

def read : Reader Settings := fun o => do
  let m ← readMembers "MonitorConfig"
    [pluginField.expected, pluginSettingsField.expected, sourceField.expected,
      metricsReportingField.expected, conditionsField.expected] o
  return {
    plugin := ← pluginField.of m
    pluginSettings := ← pluginSettingsField.of m
    source := ← sourceField.of m
    metricsReporting := ← metricsReportingField.of m
    conditions := ← conditionsField.of m }

/-- The members, with the parameters of the plugin in the given order. -/
def toJsonIn (order : List (String × String)) (s : Settings) : Json :=
  .object [
    ("plugin", .string s.plugin),
    ("pluginConfig", s.pluginSettings.toJsonIn order),
    ("source", .string s.source),
    ("metricsReporting", .bool s.metricsReporting),
    ("conditions", .array (s.conditions.map ConditionDefinition.toJson))]

def toJson (s : Settings) : Json := s.toJsonIn s.pluginSettings.parameters.entries

/-- Settings from JSON text, as they stand there. -/
def parse (text : String) : Except SettingsError Settings :=
  match readText read text with
  | .ok s => .ok s
  | .error fault => .error (.unparsable fault)

/-- The JSON text of settings. -/
def text (s : Settings) : String := s.toJson.text

end Settings

end HealthRelay
