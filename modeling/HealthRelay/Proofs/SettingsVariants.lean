import HealthRelay.Proofs.Json.Documents
import HealthRelay.Proofs.Json.Variants
import HealthRelay.Proofs.SettingsText
import Mathlib.Logic.Relation

/-!
Settings are read the same from texts that differ in what does not matter: white space, the order of
members, members that no field is named after, and members with the value that an absent one counts
as.
-/
namespace HealthRelay

open Json

variable {o o' v v' : Outline}

namespace ConditionDefinition

variable {c : ConditionDefinition}

def slots : List Slot := [typeField.slot, reasonField.slot, messageField.slot]

/-- One change of a condition that does not matter. -/
def Change : Outline → Outline → Prop := RecordChange slots

theorem read_change (h : Change o o') (hread : read o = .ok c) : read o' = .ok c :=
  read_eq_ok_iff.2 ((read_eq_ok_iff.1 hread).change rfl c.nodup_names h)

end ConditionDefinition

namespace RetryPolicy

variable {p : RetryPolicy}

def slots : List Slot :=
  [maxAttemptsField.slot, multiplierField.slot, maxBackoffField.slot, initialBackoffField.slot]

/-- One change of a policy that does not matter. -/
def Change : Outline → Outline → Prop := RecordChange slots

theorem read_change (h : Change o o') (hread : read o = .ok p) : read o' = .ok p :=
  read_eq_ok_iff.2 ((read_eq_ok_iff.1 hread).change rfl p.nodup_names h)

end RetryPolicy

namespace ProbePolicy

variable {p : ProbePolicy}

def slots : List Slot := [intervalField.slot, timeoutField.slot, errorThresholdField.slot]

/-- One change of a policy that does not matter. -/
def Change : Outline → Outline → Prop := RecordChange slots

theorem read_change (h : Change o o') (hread : read o = .ok p) : read o' = .ok p :=
  read_eq_ok_iff.2 ((read_eq_ok_iff.1 hread).change rfl p.nodup_names h)

end ProbePolicy

namespace PluginSettings

variable {p : PluginSettings}

def slots : List Slot :=
  [socketAddressField.slot, invokeIntervalField.slot, timeoutField.slot,
    skipInitialStatusField.slot, ⟨retryField, RetryPolicy.Change, RetryPolicy.read_change⟩,
    ⟨probeField, ProbePolicy.Change, ProbePolicy.read_change⟩, parametersField.slot]

/-- One change of the settings for a plugin, or inside them, that does not matter. -/
def Change : Outline → Outline → Prop := RecordChange slots

theorem read_change (h : Change o o') (hread : read o = .ok p) : read o' = .ok p :=
  read_eq_ok_iff.2 ((read_eq_ok_iff.1 hread).change rfl p.nodup_names h)

end PluginSettings

namespace Settings

variable {s : Settings} {text text' : String}

def slots : List Slot :=
  [pluginField.slot, ⟨pluginSettingsField, PluginSettings.Change, PluginSettings.read_change⟩,
    sourceField.slot, metricsReportingField.slot,
    ⟨conditionsField, ItemChange ConditionDefinition.Change,
      readArray_change ConditionDefinition.read_change⟩]

/-- One change of settings, or anywhere inside them, that does not matter. -/
def Change : Outline → Outline → Prop := RecordChange slots

theorem read_change (h : Change o o') (hread : read o = .ok s) : read o' = .ok s :=
  read_eq_ok_iff.2 ((read_eq_ok_iff.1 hread).change rfl s.nodup_names h)

/-- However often settings are changed, they are read the same. -/
theorem read_changes (h : Relation.ReflTransGen Change v v') (hread : read v = .ok s) :
    read v' = .ok s := by
  induction h with
  | refl => exact hread
  | tail _ hchange ih => exact read_change hchange ih

/-- Settings are not read from a value that is not closed. -/
theorem read_ne_ok_of_isOpen (h : v.IsOpen) : read v ≠ .ok s := by
  intro hread
  obtain ⟨m, hmembers, -⟩ := bind_eq_ok.1 hread
  exact readMembers_ne_ok_of_isOpen h hmembers

theorem parse_eq_ok_iff : parse text = .ok s ↔ readText read text = .ok s := by
  unfold parse
  cases readText read text <;> simp

/-- Settings are read from texts that spell a value. -/
theorem spelledBy_of_parse (h : parse text = .ok s) : ∃ v : Outline, v.SpelledBy text :=
  spelledBy_of_readText (fun _ => read_ne_ok_of_isOpen) (parse_eq_ok_iff.1 h)

theorem parse_of_changes (h : parse text = .ok s) (hv : v.SpelledBy text)
    (hchanges : Relation.ReflTransGen Change v v') (hv' : v'.SpelledBy text') :
    parse text' = .ok s := by
  have hread : read v = .ok s := by
    rw [← hv.readText_eq read]
    exact parse_eq_ok_iff.1 h
  rw [parse_eq_ok_iff, hv'.readText_eq read]
  exact read_changes hchanges hread

end Settings

/-! Zeros. -/

/-- A member for the field may go that has the value in the text. -/
def Json.RecordField.Spares {α : Type} (f : RecordField α) (text : String) : Prop :=
  ∃ v : Outline, v.SpelledBy text ∧ f.IsVacant v

theorem Json.RecordField.spares_of_document {α : Type} {f : RecordField α} {text : String} {a : α}
    (hdocument : document text.toList = ⟨v, false⟩) (hclosed : ¬ v.IsOpen)
    (habsent : f.absent = some a) (hread : f.read v = .ok a) : f.Spares text :=
  ⟨v, spelledBy_of_document hdocument hclosed, a, habsent, hread⟩

/-- The fields for spans of time. -/
def spanFields : List (RecordField Duration) :=
  [PluginSettings.invokeIntervalField, PluginSettings.timeoutField, RetryPolicy.maxBackoffField,
    RetryPolicy.initialBackoffField, ProbePolicy.intervalField, ProbePolicy.timeoutField]

/-- Every field that is not required may do without its zero. -/
structure ZerosSpared : Prop where
  counts : ∀ f ∈ [RetryPolicy.maxAttemptsField, ProbePolicy.errorThresholdField], f.Spares "0"
  multiplier : ∀ text ∈ ["0", "0.0"], RetryPolicy.multiplierField.Spares text
  spans : ∀ f ∈ spanFields, ∀ text ∈ ["0", "\"0s\""], f.Spares text
  flags : ∀ f ∈ [PluginSettings.skipInitialStatusField, Settings.metricsReportingField],
    f.Spares "false"
  conditions : Settings.conditionsField.Spares "[]"
  retry : PluginSettings.retryField.Spares "\x7b\x7d"
  probe : PluginSettings.probeField.Spares "\x7b\x7d"
  parameters : PluginSettings.parametersField.Spares "\x7b\x7d"

/-- The numeral of zero. -/
def zeroNumeral : Numeral := ⟨false, ['0'], [], none⟩

/-- The numeral of zero with a point. -/
def pointZeroNumeral : Numeral := ⟨false, ['0'], ['0'], none⟩

theorem spares_count {f : RecordField UInt32} (habsent : f.absent = some 0)
    (hread : f.read = readUInt32) : f.Spares "0" := by
  apply @RecordField.spares_of_document (.number zeroNumeral) _ f "0" 0 rfl id habsent
  rw [hread]
  rfl

theorem spares_span {f : RecordField Duration} (habsent : f.absent = some .zero)
    (hread : f.read = Duration.read) : ∀ text ∈ ["0", "\"0s\""], f.Spares text := by
  intro text htext
  rcases List.mem_pair.1 htext with rfl | rfl
  · apply @RecordField.spares_of_document (.number zeroNumeral) _ f "0" .zero rfl id habsent
    rw [hread]
    rfl
  · apply @RecordField.spares_of_document (.string (some "0s")) _ f "\"0s\"" .zero rfl id habsent
    rw [hread]
    rfl

theorem spares_flag {f : RecordField Bool} (habsent : f.absent = some false)
    (hread : f.read = readBool) : f.Spares "false" := by
  apply @RecordField.spares_of_document (.bool false) _ f "false" false rfl id habsent
  rw [hread]
  rfl

theorem read_zeroNumeral : readBinary64 (.number zeroNumeral) = .ok .zero := by
  have hnumber : number? zeroNumeral = some (.natural 0) := by decide
  have hzero : Magnitude.ofNat 0 = .zero := by decide +kernel
  simp only [readBinary64, hnumber, hzero]
  rfl

theorem read_pointZeroNumeral : readBinary64 (.number pointZeroNumeral) = .ok .zero := by
  have hnumber : number? pointZeroNumeral = some (.real .zero) := by decide +kernel
  simp only [readBinary64, hnumber]

theorem spares_real {f : RecordField Binary64} (habsent : f.absent = some .zero)
    (hread : f.read = readBinary64) : ∀ text ∈ ["0", "0.0"], f.Spares text := by
  intro text htext
  rcases List.mem_pair.1 htext with rfl | rfl
  · apply @RecordField.spares_of_document (.number zeroNumeral) _ f "0" .zero rfl id habsent
    rw [hread]
    exact read_zeroNumeral
  · apply @RecordField.spares_of_document (.number pointZeroNumeral) _ f "0.0" .zero rfl id habsent
    rw [hread]
    exact read_pointZeroNumeral

theorem zerosSpared : ZerosSpared := by
  constructor
  · intro f hf
    rcases List.mem_pair.1 hf with rfl | rfl
    · exact spares_count rfl rfl
    · exact spares_count rfl rfl
  · exact spares_real rfl rfl
  · intro f hf
    simp only [spanFields, List.mem_cons, List.not_mem_nil, or_false] at hf
    rcases hf with rfl | rfl | rfl | rfl | rfl | rfl <;> exact spares_span rfl rfl
  · intro f hf
    rcases List.mem_pair.1 hf with rfl | rfl
    · exact spares_flag rfl rfl
    · exact spares_flag rfl rfl
  · exact RecordField.spares_of_document (v := .array [] true) rfl id rfl rfl
  · exact RecordField.spares_of_document (v := .object [] true) rfl id rfl rfl
  · exact RecordField.spares_of_document (v := .object [] true) rfl id rfl rfl
  · exact RecordField.spares_of_document (v := .object [] true) rfl id rfl rfl

/-- A text that settings are read from spells one value, and the same settings are read from every
other text, with any white space, of a value that comes of this one by changes that do not matter.
Among these is that members with zeros go. -/
theorem Settings.parse_variant {s : Settings} {text : String} (h : parse text = .ok s) :
    (∃! v : Outline, v.SpelledBy text) ∧
    (∀ (v v' : Outline) (text' : String), v.SpelledBy text → Relation.ReflTransGen Change v v' →
      v'.SpelledBy text' → parse text' = .ok s) ∧
    ZerosSpared := by
  refine ⟨?_, ?_, zerosSpared⟩
  · obtain ⟨v, hv⟩ := spelledBy_of_parse h
    refine ⟨v, hv, ?_⟩
    intro u hu
    have heq := hu.document_eq.symm.trans hv.document_eq
    exact (Document.mk.inj heq).1
  · intro v v' text' hv hchanges hv'
    exact parse_of_changes h hv hchanges hv'

/-- A time limit of zero goes, a note comes in, and the members stand the other way round. -/
theorem Settings.parse_variant_reversed :
    let text := "\x7b\"plugin\":\"external\",\"pluginConfig\":" ++
      "\x7b\"socketAddress\":\"/run/gpu.sock\",\"timeout\":\"0s\"\x7d,\"source\":\"gpu\"\x7d"
    let text' := "\x7b \"source\": \"gpu\",\n\t\"note\": [null, 1.5E3],\n\t\"pluginConfig\": " ++
      "\x7b\"socketAddress\": \"/run/gpu.sock\"\x7d,\n\t\"plugin\": \"external\" \x7d\n"
    parse text = .ok (.new "gpu" "/run/gpu.sock") ∧
      parse text' = .ok (.new "gpu" "/run/gpu.sock") := by
  intro text text'
  let plugin : Outline × Outline := (.string (some "plugin"), .string (some "external"))
  let source : Outline × Outline := (.string (some "source"), .string (some "gpu"))
  let note : Outline := .array [.null, .number ⟨false, ['1'], ['5'], some (.bare, ['3'])⟩] true
  let socket : Outline × Outline :=
    (.string (some "socketAddress"), .string (some "/run/gpu.sock"))
  let timeout : Outline × Outline := (.string (some "timeout"), .string (some "0s"))
  let config (members : List (Outline × Outline)) : Outline × Outline :=
    (.string (some "pluginConfig"), .object members true)
  let v := Outline.object [plugin, config [socket, timeout], source] true
  let v' := Outline.object [source, (.string (some "note"), note), config [socket], plugin] true
  have hspelled : v.SpelledBy text := by
    have htokens : tokens text.toList = v.tokens := by decide +kernel
    apply spelledBy_of_document _ id
    rw [document, htokens]
    rfl
  have hspelled' : v'.SpelledBy text' := by
    have htokens : tokens text'.toList = v'.tokens := by decide +kernel
    apply spelledBy_of_document _ id
    rw [document, htokens]
    rfl
  have hremove : Change v (.object [plugin, config [socket], source] true) := by
    have hzero : PluginSettings.timeoutField.IsVacant (.string (some "0s")) := ⟨.zero, rfl, rfl⟩
    have hgone : PluginSettings.Change (config [socket, timeout]).2 (config [socket]).2 :=
      @RecordChange.remove _ [socket] [] _ PluginSettings.timeoutField.slot
        (by simp [PluginSettings.slots]) hzero
    exact @RecordChange.within _ [plugin] [source] _ _
      ⟨pluginSettingsField, PluginSettings.Change, PluginSettings.read_change⟩
      (by simp [slots]) hgone
  have hinsert : Change (.object [plugin, config [socket], source] true)
      (.object [plugin, config [socket], (.string (some "note"), note), source] true) := by
    have hother : ∀ w ∈ slots, w.name ≠ "note" := by
      intro w hw heq
      have hname : w.name ∈
          ["plugin", "pluginConfig", "source", "metricsReporting", "conditions"] :=
        List.mem_map_of_mem hw
      rw [heq] at hname
      revert hname
      decide
    exact @RecordChange.insert _ [plugin, config [socket]] [source] "note" note hother
  have hpermute : Change
      (.object [plugin, config [socket], (.string (some "note"), note), source] true) v' :=
    .permute (List.reverse_perm _).symm
  have hchanges : Relation.ReflTransGen Change v v' :=
    ((Relation.ReflTransGen.single hremove).tail hinsert).tail hpermute
  have hread : read v = .ok (.new "gpu" "/run/gpu.sock") := by rfl
  have hparse : parse text = .ok (.new "gpu" "/run/gpu.sock") := by
    rw [parse_eq_ok_iff, hspelled.readText_eq, hread]
  exact ⟨hparse, (parse_variant hparse).2.1 v v' text' hspelled hchanges hspelled'⟩

end HealthRelay
