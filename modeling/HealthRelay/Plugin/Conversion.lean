import HealthRelay.Plugin
import HealthRelay.Status

/-!
What a plugin says, in the terms of this library.

A number that stands for nothing known is read with caution: as a mere notice, or as not known. A
point in time that is missing or impossible is taken to be the moment of receipt.
-/

namespace HealthRelay

def Severity.ofNumber (n : Int) : Severity := if n = 2 then .warn else .info

def Presence.ofNumber (n : Int) : Presence :=
  if n = 1 then .present else if n = 2 then .absent else .unknown

def Timestamp.ofInstant (received : Timestamp) (i : Option Plugin.Instant) : Timestamp :=
  (i.bind fun i => ofUnix? i.seconds i.nanos).getD received

def Event.ofPlugin (received : Timestamp) (e : Plugin.Event) : Event where
  severity := .ofNumber e.severity
  timestamp := .ofInstant received e.timestamp
  reason := e.reason
  message := e.message

def Condition.ofPlugin (received : Timestamp) (c : Plugin.Condition) : Condition where
  type := c.type
  status := .ofNumber c.status
  transition := .ofInstant received c.transition
  reason := c.reason
  message := c.message

def Status.ofReport (received : Timestamp) (r : Plugin.Report) : Status where
  source := r.source
  events := r.events.map (.ofPlugin received)
  conditions := r.conditions.map (.ofPlugin received)

/-- The plugin at the other end of a connection. -/
structure Identity where
  /-- The name the settings give the monitor. -/
  source : String
  endpoint : String
  name : String
  version : String
  apiVersion : String
  description : String
  supportedConditions : List String
  capabilities : Table String
  deriving DecidableEq

def Identity.ofMetadata (source endpoint : String) (m : Plugin.Metadata) : Identity where
  source := source
  endpoint := endpoint
  name := m.name
  version := m.version
  apiVersion := m.apiVersion
  description := m.description
  supportedConditions := m.supportedConditions
  capabilities := m.capabilities

end HealthRelay
