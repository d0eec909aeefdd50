import HealthRelay.Json.Reader
import HealthRelay.Json.Value
import HealthRelay.Status
import HealthRelay.Timestamp.Text

/-!
Reports as JSON text, both ways; printed one to a line.
-/

namespace HealthRelay

open Json

def Timestamp.toJson (t : Timestamp) : Json := .string t.text

def Timestamp.read : Reader Timestamp := fun o => do
  let s ← readString "an RFC 3339 formatted date and time string" o
  (parse s).elim (.error (.unreadable s)) .ok

namespace Severity

def name : Severity → String
  | .info => "info"
  | .warn => "warn"

def read : Reader Severity := readChoice ([.info, .warn].map fun s => (name s, s))

end Severity

namespace Presence

def name : Presence → String
  | .present => "True"
  | .absent => "False"
  | .unknown => "Unknown"

def read : Reader Presence := readChoice ([.present, .absent, .unknown].map fun p => (name p, p))

end Presence

namespace Event

def severityField : RecordField Severity := ⟨"severity", Severity.read, none⟩
def timestampField : RecordField Timestamp := ⟨"timestamp", Timestamp.read, none⟩
def reasonField : RecordField String := ⟨"reason", readString, none⟩
def messageField : RecordField String := ⟨"message", readString, none⟩

def read : Reader Event := fun o => do
  let m ← readMembers "Event"
    [severityField.expected, timestampField.expected, reasonField.expected,
      messageField.expected] o
  return ⟨← severityField.of m, ← timestampField.of m, ← reasonField.of m, ← messageField.of m⟩

def toJson (e : Event) : Json :=
  .object [
    ("severity", .string e.severity.name),
    ("timestamp", e.timestamp.toJson),
    ("reason", .string e.reason),
    ("message", .string e.message)]

end Event

namespace Condition

def typeField : RecordField String := ⟨"type", readString, none⟩
def statusField : RecordField Presence := ⟨"status", Presence.read, none⟩
def transitionField : RecordField Timestamp := ⟨"transition", Timestamp.read, none⟩
def reasonField : RecordField String := ⟨"reason", readString, none⟩
def messageField : RecordField String := ⟨"message", readString, none⟩

def read : Reader Condition := fun o => do
  let m ← readMembers "Condition"
    [typeField.expected, statusField.expected, transitionField.expected, reasonField.expected,
      messageField.expected] o
  return ⟨← typeField.of m, ← statusField.of m, ← transitionField.of m, ← reasonField.of m,
    ← messageField.of m⟩

def toJson (c : Condition) : Json :=
  .object [
    ("type", .string c.type),
    ("status", .string c.status.name),
    ("transition", c.transition.toJson),
    ("reason", .string c.reason),
    ("message", .string c.message)]

end Condition

namespace Status

def sourceField : RecordField String := ⟨"source", readString, none⟩
def eventsField : RecordField (List Event) := ⟨"events", readArray Event.read, none⟩
def conditionsField : RecordField (List Condition) := ⟨"conditions", readArray Condition.read, none⟩

def read : Reader Status := fun o => do
  let m ← readMembers "Status"
    [sourceField.expected, eventsField.expected, conditionsField.expected] o
  return ⟨← sourceField.of m, ← eventsField.of m, ← conditionsField.of m⟩

def toJson (s : Status) : Json :=
  .object [
    ("source", .string s.source),
    ("events", .array (s.events.map Event.toJson)),
    ("conditions", .array (s.conditions.map Condition.toJson))]

/-- The line that a report is printed as. -/
def line (s : Status) : String := s.toJson.text

/-- The output for reports, one to a line. -/
def printed (reports : List Status) : String :=
  String.join (reports.map fun s => s.line ++ "\n")

/-- Reads a printed report. -/
def parse (text : String) : Except Fault Status := readText read text

end Status

end HealthRelay
