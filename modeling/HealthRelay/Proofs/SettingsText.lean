import HealthRelay.Proofs.DurationText
import HealthRelay.Proofs.Json.Records
import HealthRelay.Proofs.TableOrder
import HealthRelay.Settings.Document

/-!
Settings are read back as they are written.
-/
namespace HealthRelay

open Json

namespace Json

/-- The text of the number is read as that number. -/
def ReadsBack (x : Binary64) : Prop := readText readBinary64 (ofBinary64 x).text = .ok x

theorem wellFormed_ofNat (n : Nat) : (ofNat n).WellFormed := .number (Numeral.wellFormed_ofNat n)

theorem wellFormed_ofBinary64 (x : Binary64) : (ofBinary64 x).WellFormed := by
  unfold ofBinary64
  cases h : x.numeral? .json with
  | none => exact .null
  | some n => exact .number (Binary64.wellFormed_numeral? h)

theorem ReadsBack.read_outline {x : Binary64} (h : ReadsBack x) :
    readBinary64 (ofBinary64 x).outline = .ok x :=
  ((wellFormed_ofBinary64 x).readText_text readBinary64).symm.trans h

/-- There is no text for a number that is not finite. -/
theorem ReadsBack.isFinite {x : Binary64} (h : ReadsBack x) : x.isFinite = true := by
  cases hfinite : x.isFinite with
  | true => rfl
  | false =>
    have hnone : x.numeral? .json = none := by
      cases x with
      | nan => rfl
      | signed negative a => simpa [Binary64.isFinite, Binary64.numeral?] using hfinite
    have hnull := h.read_outline
    rw [ofBinary64, hnone] at hnull
    cases hnull

theorem readsBack_defaultMultiplier : ReadsBack RetryPolicy.defaultMultiplier := by
  have hnumeral : RetryPolicy.defaultMultiplier.numeral? .json =
      some ⟨false, ['2'], ['0'], none⟩ := by
    decide +kernel
  have hnumber : number? ⟨false, ['2'], ['0'], none⟩ =
      some (.real RetryPolicy.defaultMultiplier) := by
    decide +kernel
  rw [ReadsBack, (wellFormed_ofBinary64 _).readText_text, ofBinary64, hnumeral]
  simp [outline, readBinary64, hnumber]

theorem readUInt32_ofNat (n : UInt32) : readUInt32 (ofNat n.toNat).outline = .ok n := by
  have hword : n.toNat < UInt64.size := Nat.lt_trans n.toNat_lt_size (by decide)
  have hfits : n.toNat < UInt32.size := n.toNat_lt_size
  simp [ofNat, outline, readUInt32, number?_ofNat hword, hfits]

/-- The object with these members, all texts. -/
def ofStrings (order : List (String × String)) : Json :=
  .object (order.map fun e => (e.1, .string e.2))

theorem wellFormed_ofStrings (order : List (String × String)) : (ofStrings order).WellFormed := by
  refine .object ?_
  intro m hm
  obtain ⟨e, -, rfl⟩ := List.mem_map.1 hm
  exact .string _

/-- A table is read back from its members in any order. -/
theorem readTable_ofStrings {t : Table String} {order : List (String × String)}
    (horder : order.Perm t.entries) : readTable readString (ofStrings order).outline = .ok t := by
  have hentries := @mapM_of_read (Outline × Outline) (String × String)
    (fun e => (.string (some e.1), .string (some e.2)))
    (fun m => do
      let name ← readKey m.1
      let v ← readString "a string" m.2
      pure (name, v))
    order (fun e _ => rfl)
  rw [ofStrings, outline, outlineMembers_eq, List.map_map]
  simp only [readTable, Function.comp_def, outline]
  rw [hentries]
  simp [bind, Except.bind, Table.ofList_of_perm horder]

end Json

/-- A span of time that fits a 64-bit word of nanoseconds. -/
def Duration.FitsWord (d : Duration) : Prop := d.nanos < UInt64.size

theorem Duration.read_toJson {d : Duration} (h : d.FitsWord) :
    Duration.read d.toJson.outline = .ok d := by
  simp [Duration.read, toJson, outline, parse_of_text h]

namespace ConditionDefinition

/-- The values of the fields. -/
def values (c : ConditionDefinition) : List FieldValue :=
  [⟨typeField, c.type⟩, ⟨reasonField, c.reason⟩, ⟨messageField, c.message⟩]

theorem nodup_names (c : ConditionDefinition) : (c.values.map FieldValue.name).Nodup := by
  change ["type", "reason", "message"].Nodup
  decide

theorem read_eq_ok_iff {c : ConditionDefinition} {o : Outline} :
    read o = .ok c ↔ ReadAs "ConditionDefinition" c.values o := by
  rcases c
  simp [read, ReadAs, values, FieldValue.expected, bind_eq_ok, pure, Except.pure]

def written (c : ConditionDefinition) : List Written :=
  [⟨typeField, .string c.type, c.type, .string _, rfl⟩,
    ⟨reasonField, .string c.reason, c.reason, .string _, rfl⟩,
    ⟨messageField, .string c.message, c.message, .string _, rfl⟩]

theorem wellFormed_toJson (c : ConditionDefinition) : c.toJson.WellFormed :=
  Written.wellFormed_toJson c.written

theorem read_toJson (c : ConditionDefinition) : read c.toJson.outline = .ok c :=
  read_eq_ok_iff.2 (Written.readAs_toJson c.written _ c.nodup_names)

end ConditionDefinition

namespace RetryPolicy

/-- The policy can be written without loss. -/
structure Writable (p : RetryPolicy) : Prop where
  multiplier : ReadsBack p.multiplier
  maxBackoff : p.maxBackoff.FitsWord
  initialBackoff : p.initialBackoff.FitsWord

variable {p : RetryPolicy}

/-- The values of the fields. -/
def values (p : RetryPolicy) : List FieldValue :=
  [⟨maxAttemptsField, p.maxAttempts⟩, ⟨multiplierField, p.multiplier⟩,
    ⟨maxBackoffField, p.maxBackoff⟩, ⟨initialBackoffField, p.initialBackoff⟩]

theorem nodup_names (p : RetryPolicy) : (p.values.map FieldValue.name).Nodup := by
  change ["maxAttempts", "backoffMultiplier", "maxBackoff", "initialBackoff"].Nodup
  decide

theorem read_eq_ok_iff {o : Outline} :
    read o = .ok p ↔ ReadAs "RetryPolicy" p.values o := by
  rcases p
  simp [read, ReadAs, values, FieldValue.expected, bind_eq_ok, pure, Except.pure]

def written (p : RetryPolicy) (h : p.Writable) : List Written :=
  [⟨maxAttemptsField, .ofNat p.maxAttempts.toNat, p.maxAttempts, wellFormed_ofNat _,
      readUInt32_ofNat _⟩,
    ⟨multiplierField, .ofBinary64 p.multiplier, p.multiplier, wellFormed_ofBinary64 _,
      h.multiplier.read_outline⟩,
    ⟨maxBackoffField, p.maxBackoff.toJson, p.maxBackoff, .string _,
      Duration.read_toJson h.maxBackoff⟩,
    ⟨initialBackoffField, p.initialBackoff.toJson, p.initialBackoff, .string _,
      Duration.read_toJson h.initialBackoff⟩]

theorem wellFormed_toJson (h : p.Writable) : p.toJson.WellFormed :=
  Written.wellFormed_toJson (p.written h)

theorem read_toJson (h : p.Writable) : read p.toJson.outline = .ok p :=
  read_eq_ok_iff.2 (Written.readAs_toJson (p.written h) _ p.nodup_names)

end RetryPolicy

namespace ProbePolicy

/-- The policy can be written without loss. -/
structure Writable (p : ProbePolicy) : Prop where
  interval : p.interval.FitsWord
  timeout : p.timeout.FitsWord

variable {p : ProbePolicy}

/-- The values of the fields. -/
def values (p : ProbePolicy) : List FieldValue :=
  [⟨intervalField, p.interval⟩, ⟨timeoutField, p.timeout⟩,
    ⟨errorThresholdField, p.errorThreshold⟩]

theorem nodup_names (p : ProbePolicy) : (p.values.map FieldValue.name).Nodup := by
  change ["interval", "timeout", "errorThreshold"].Nodup
  decide

theorem read_eq_ok_iff {o : Outline} :
    read o = .ok p ↔ ReadAs "HealthCheckConfig" p.values o := by
  rcases p
  simp [read, ReadAs, values, FieldValue.expected, bind_eq_ok, pure, Except.pure]

def written (p : ProbePolicy) (h : p.Writable) : List Written :=
  [⟨intervalField, p.interval.toJson, p.interval, .string _, Duration.read_toJson h.interval⟩,
    ⟨timeoutField, p.timeout.toJson, p.timeout, .string _, Duration.read_toJson h.timeout⟩,
    ⟨errorThresholdField, .ofNat p.errorThreshold.toNat, p.errorThreshold, wellFormed_ofNat _,
      readUInt32_ofNat _⟩]

theorem wellFormed_toJson (h : p.Writable) : p.toJson.WellFormed :=
  Written.wellFormed_toJson (p.written h)

theorem read_toJson (h : p.Writable) : read p.toJson.outline = .ok p :=
  read_eq_ok_iff.2 (Written.readAs_toJson (p.written h) _ p.nodup_names)

end ProbePolicy

namespace PluginSettings

/-- The settings can be written without loss. -/
structure Writable (p : PluginSettings) : Prop where
  invokeInterval : p.invokeInterval.FitsWord
  timeout : p.timeout.FitsWord
  retry : p.retry.Writable
  probe : p.probe.Writable

variable {p : PluginSettings} {order : List (String × String)}

/-- The values of the fields. -/
def values (p : PluginSettings) : List FieldValue :=
  [⟨socketAddressField, p.socketAddress⟩, ⟨invokeIntervalField, p.invokeInterval⟩,
    ⟨timeoutField, p.timeout⟩, ⟨skipInitialStatusField, p.skipInitialStatus⟩,
    ⟨retryField, p.retry⟩, ⟨probeField, p.probe⟩, ⟨parametersField, p.parameters⟩]

theorem nodup_names (p : PluginSettings) : (p.values.map FieldValue.name).Nodup := by
  change ["socketAddress", "invoke_interval", "timeout", "skip_initial_status", "retryPolicy",
      "healthCheck", "pluginParameters"].Nodup
  decide

theorem read_eq_ok_iff {o : Outline} :
    read o = .ok p ↔ ReadAs "PluginConfig" p.values o := by
  rcases p
  simp [read, ReadAs, values, FieldValue.expected, bind_eq_ok, pure, Except.pure, -Bool.exists_bool]

def written (p : PluginSettings) (h : p.Writable) (order : List (String × String))
    (horder : order.Perm p.parameters.entries) : List Written :=
  [⟨socketAddressField, .string p.socketAddress, p.socketAddress, .string _, rfl⟩,
    ⟨invokeIntervalField, p.invokeInterval.toJson, p.invokeInterval, .string _,
      Duration.read_toJson h.invokeInterval⟩,
    ⟨timeoutField, p.timeout.toJson, p.timeout, .string _, Duration.read_toJson h.timeout⟩,
    ⟨skipInitialStatusField, .bool p.skipInitialStatus, p.skipInitialStatus, .bool _, rfl⟩,
    ⟨retryField, p.retry.toJson, p.retry, RetryPolicy.wellFormed_toJson h.retry,
      RetryPolicy.read_toJson h.retry⟩,
    ⟨probeField, p.probe.toJson, p.probe, ProbePolicy.wellFormed_toJson h.probe,
      ProbePolicy.read_toJson h.probe⟩,
    ⟨parametersField, ofStrings order, p.parameters, wellFormed_ofStrings _,
      readTable_ofStrings horder⟩]

theorem wellFormed_toJsonIn (h : p.Writable) (horder : order.Perm p.parameters.entries) :
    (p.toJsonIn order).WellFormed :=
  Written.wellFormed_toJson (p.written h order horder)

theorem read_toJsonIn (h : p.Writable) (horder : order.Perm p.parameters.entries) :
    read (p.toJsonIn order).outline = .ok p :=
  read_eq_ok_iff.2 (Written.readAs_toJson (p.written h order horder) _ p.nodup_names)

end PluginSettings

namespace Settings

variable {s : Settings} {order : List (String × String)}

/-- The values of the fields. -/
def values (s : Settings) : List FieldValue :=
  [⟨pluginField, s.plugin⟩, ⟨pluginSettingsField, s.pluginSettings⟩, ⟨sourceField, s.source⟩,
    ⟨metricsReportingField, s.metricsReporting⟩, ⟨conditionsField, s.conditions⟩]

theorem nodup_names (s : Settings) : (s.values.map FieldValue.name).Nodup := by
  change ["plugin", "pluginConfig", "source", "metricsReporting", "conditions"].Nodup
  decide

theorem read_eq_ok_iff {o : Outline} :
    read o = .ok s ↔ ReadAs "MonitorConfig" s.values o := by
  rcases s
  simp [read, ReadAs, values, FieldValue.expected, bind_eq_ok, pure, Except.pure, -Bool.exists_bool]

def written (s : Settings) (h : s.pluginSettings.Writable) (order : List (String × String))
    (horder : order.Perm s.pluginSettings.parameters.entries) : List Written :=
  [⟨pluginField, .string s.plugin, s.plugin, .string _, rfl⟩,
    ⟨pluginSettingsField, s.pluginSettings.toJsonIn order, s.pluginSettings,
      PluginSettings.wellFormed_toJsonIn h horder, PluginSettings.read_toJsonIn h horder⟩,
    ⟨sourceField, .string s.source, s.source, .string _, rfl⟩,
    ⟨metricsReportingField, .bool s.metricsReporting, s.metricsReporting, .bool _, rfl⟩,
    ⟨conditionsField, .array (s.conditions.map ConditionDefinition.toJson), s.conditions,
      wellFormed_array_map fun c _ => c.wellFormed_toJson,
      readArray_map fun c _ => c.read_toJson⟩]

theorem read_toJsonIn (h : s.pluginSettings.Writable)
    (horder : order.Perm s.pluginSettings.parameters.entries) :
    read (s.toJsonIn order).outline = .ok s :=
  read_eq_ok_iff.2 (Written.readAs_toJson (s.written h order horder) _ s.nodup_names)

theorem parse_toJsonIn (h : s.pluginSettings.Writable)
    (horder : order.Perm s.pluginSettings.parameters.entries) :
    parse (s.toJsonIn order).text = .ok s := by
  have hwellFormed : (s.toJsonIn order).WellFormed :=
    Written.wellFormed_toJson (s.written h order horder)
  rw [parse, hwellFormed.readText_text, read_toJsonIn h horder]

/-- Settings are read back from their text, and from any other text that has the parameters in
another order, if their spans of time fit a 64-bit word of nanoseconds and the number among them
is read back. -/
theorem parse_text (s : Settings) (h : s.pluginSettings.Writable) :
    parse s.text = .ok s ∧
    ∀ order, order.Perm s.pluginSettings.parameters.entries →
      parse (s.toJsonIn order).text = .ok s :=
  ⟨parse_toJsonIn h (.refl _), fun _ horder => parse_toJsonIn h horder⟩

theorem parse_text_withDefaults :
    let s : Settings :=
      { (Settings.new "gpu" "/run/gpu.sock").withDefaults with
        conditions := [⟨"GPUHealthy", "AllFine", "\"ok\"\n\x01 é 😀"⟩] }
    s.pluginSettings.Writable ∧ parse s.text = .ok s := by
  intro s
  have hwritable : s.pluginSettings.Writable := by
    refine ⟨?_, ?_, ⟨readsBack_defaultMultiplier, ?_, ?_⟩, ⟨?_, ?_⟩⟩
    all_goals
      unfold Duration.FitsWord
      decide
  exact ⟨hwritable, (parse_text s hwritable).1⟩

end Settings

end HealthRelay
