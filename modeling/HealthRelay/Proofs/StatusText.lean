import HealthRelay.Proofs.Json.Plain
import HealthRelay.Proofs.Json.Records
import HealthRelay.Proofs.TimestampText
import HealthRelay.Status.Document

/-!
Reports are read back from the lines they are printed as.
-/
namespace HealthRelay

open Json

theorem Timestamp.read_toJson (t : Timestamp) : Timestamp.read t.toJson.outline = .ok t := by
  simp [Timestamp.read, toJson, outline, readString, parse_of_text, bind, Except.bind]

theorem Severity.read_name (s : Severity) :
    Severity.read (Json.string s.name).outline = .ok s := by
  cases s <;> rfl

theorem Presence.read_name (p : Presence) :
    Presence.read (Json.string p.name).outline = .ok p := by
  cases p <;> rfl

namespace Event

def written (e : Event) : List Written :=
  [⟨severityField, .string e.severity.name, e.severity, .string _, e.severity.read_name⟩,
    ⟨timestampField, e.timestamp.toJson, e.timestamp, .string _, e.timestamp.read_toJson⟩,
    ⟨reasonField, .string e.reason, e.reason, .string _, rfl⟩,
    ⟨messageField, .string e.message, e.message, .string _, rfl⟩]

theorem wellFormed_toJson (e : Event) : e.toJson.WellFormed := Written.wellFormed_toJson e.written

theorem read_toJson (e : Event) : read e.toJson.outline = .ok e := by
  have hnodup : (e.written.map Written.name).Nodup := by
    change ["severity", "timestamp", "reason", "message"].Nodup
    decide
  obtain ⟨m, hmembers, hseverity, htimestamp, hreason, hmessage⟩ :
      ∃ m, readMembers "Event"
        [severityField.expected, timestampField.expected, reasonField.expected,
          messageField.expected] e.toJson.outline = .ok m ∧
        severityField.of m = .ok e.severity ∧ timestampField.of m = .ok e.timestamp ∧
        reasonField.of m = .ok e.reason ∧ messageField.of m = .ok e.message :=
    ⟨_, Written.readMembers_toJson _ hnodup, Written.of_toJson hnodup⟩
  simp only [read, hmembers, hseverity, htimestamp, hreason, hmessage, bind, Except.bind, pure,
    Except.pure]

end Event

namespace Condition

def written (c : Condition) : List Written :=
  [⟨typeField, .string c.type, c.type, .string _, rfl⟩,
    ⟨statusField, .string c.status.name, c.status, .string _, c.status.read_name⟩,
    ⟨transitionField, c.transition.toJson, c.transition, .string _, c.transition.read_toJson⟩,
    ⟨reasonField, .string c.reason, c.reason, .string _, rfl⟩,
    ⟨messageField, .string c.message, c.message, .string _, rfl⟩]

theorem wellFormed_toJson (c : Condition) : c.toJson.WellFormed :=
  Written.wellFormed_toJson c.written

theorem read_toJson (c : Condition) : read c.toJson.outline = .ok c := by
  have hnodup : (c.written.map Written.name).Nodup := by
    change ["type", "status", "transition", "reason", "message"].Nodup
    decide
  obtain ⟨m, hmembers, htype, hstatus, htransition, hreason, hmessage⟩ :
      ∃ m, readMembers "Condition"
        [typeField.expected, statusField.expected, transitionField.expected,
          reasonField.expected, messageField.expected] c.toJson.outline = .ok m ∧
        typeField.of m = .ok c.type ∧ statusField.of m = .ok c.status ∧
        transitionField.of m = .ok c.transition ∧ reasonField.of m = .ok c.reason ∧
        messageField.of m = .ok c.message :=
    ⟨_, Written.readMembers_toJson _ hnodup, Written.of_toJson hnodup⟩
  simp only [read, hmembers, htype, hstatus, htransition, hreason, hmessage, bind, Except.bind,
    pure, Except.pure]

end Condition

namespace Status

def written (s : Status) : List Written :=
  [⟨sourceField, .string s.source, s.source, .string _, rfl⟩,
    ⟨eventsField, .array (s.events.map Event.toJson), s.events,
      wellFormed_array_map fun e _ => e.wellFormed_toJson,
      readArray_map fun e _ => e.read_toJson⟩,
    ⟨conditionsField, .array (s.conditions.map Condition.toJson), s.conditions,
      wellFormed_array_map fun c _ => c.wellFormed_toJson,
      readArray_map fun c _ => c.read_toJson⟩]

theorem wellFormed_toJson (s : Status) : s.toJson.WellFormed :=
  Written.wellFormed_toJson s.written

theorem read_toJson (s : Status) : read s.toJson.outline = .ok s := by
  have hnodup : (s.written.map Written.name).Nodup := by
    change ["source", "events", "conditions"].Nodup
    decide
  obtain ⟨m, hmembers, hsource, hevents, hconditions⟩ :
      ∃ m, readMembers "Status"
        [sourceField.expected, eventsField.expected, conditionsField.expected]
        s.toJson.outline = .ok m ∧
        sourceField.of m = .ok s.source ∧ eventsField.of m = .ok s.events ∧
        conditionsField.of m = .ok s.conditions :=
    ⟨_, Written.readMembers_toJson _ hnodup, Written.of_toJson hnodup⟩
  simp only [read, hmembers, hsource, hevents, hconditions, bind, Except.bind, pure, Except.pure]

theorem parse_line (s : Status) : parse s.line = .ok s := by
  rw [parse, line, s.wellFormed_toJson.readText_text, s.read_toJson]

theorem plain_line (s : Status) : Plain s.line.toList := by
  rw [line, text, String.toList_ofList]
  exact s.wellFormed_toJson.plain_render

theorem printed_cons (s : Status) (reports : List Status) :
    (printed (s :: reports)).toList = s.line.toList ++ '\n' :: (printed reports).toList := by
  simp [printed, String.join_cons]

/-- A line break stands at the end of each line only. -/
theorem splitOn_printed (reports : List Status) :
    (printed reports).toList.splitOn '\n' = reports.map (fun s => s.line.toList) ++ [[]] := by
  induction reports with
  | nil => rfl
  | cons s reports ih =>
    have hline : '\n' ∉ s.line.toList := by
      intro hmem
      have hcode := s.plain_line _ hmem
      simp at hcode
    rw [printed_cons, List.splitOn_append_cons_self_of_not_mem hline, ih]
    rfl

theorem split_printed (reports : List Status) :
    ((printed reports).split '\n').toList.map String.Slice.copy = reports.map line ++ [""] := by
  rw [String.toList_split_char, splitOn_printed]
  simp

/-- Every report is printed as text without control characters in the sense of JSON, so without a
line break, and this text is read as the report. So the reports of a run are read back from what
was printed, line by line. Points in time are written as RFC 3339 says, in the fewest digits, and
read back as well. -/
theorem printed_read_back :
    (∀ s : Status, Plain s.line.toList ∧ parse s.line = .ok s) ∧
    (∀ reports : List Status,
      let lines := ((printed reports).split '\n').toList.map String.Slice.copy
      lines = reports.map line ++ [""] ∧ lines.dropLast.mapM parse = .ok reports) ∧
    ∀ t : Timestamp, Timestamp.parse t.text = some t ∧
      ∃ width ∈ [0, 3, 6, 9], t.text.toList = t.rfc3339 width ∧
        ∀ w ∈ [0, 3, 6, 9], 10 ^ (9 - w) ∣ t.nanos ↔ width ≤ w := by
  refine ⟨fun s => ⟨s.plain_line, s.parse_line⟩, ?_, ?_⟩
  · intro reports lines
    have hlines : lines = reports.map line ++ [""] := split_printed reports
    refine ⟨hlines, ?_⟩
    rw [hlines, List.dropLast_concat]
    exact mapM_of_read fun s _ => s.parse_line
  · intro t
    refine ⟨t.parse_of_text, ?_⟩
    rw [Timestamp.text, String.toList_ofList]
    exact t.render_eq_rfc3339

end Status

end HealthRelay
