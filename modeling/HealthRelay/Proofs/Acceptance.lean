import HealthRelay.Proofs.NumberOrder
import HealthRelay.Proofs.TableOrder
import HealthRelay.Registry

/-!
Which settings are accepted once zeros have been filled in, and that nothing else stands between
settings and a monitor.
-/
namespace HealthRelay

variable {s t : Settings} {e : SettingsError} {files : FileTree} {path : String} {link : Link}
  {r r' : Registry}

/-! Filling in zeros. -/

namespace Duration

variable {d default : Duration}

theorem isZero_iff : d.isZero = true ↔ d = .zero := by
  rcases d with ⟨nanos, hnanos⟩
  simp [isZero, zero]

theorem fill_of_ne_zero (h : d ≠ .zero) : (if d.isZero then default else d) = d :=
  if_neg (mt isZero_iff.1 h)

theorem fill_ne_zero (h : default ≠ .zero) : (if d.isZero then default else d) ≠ .zero := by
  split
  · exact h
  · rwa [ne_eq, ← isZero_iff]

end Duration

/-- Zero of neither sign. -/
def Binary64.NonZero (x : Binary64) : Prop := ∀ negative, x ≠ .signed negative .zero

theorem Binary64.nonZero_iff {x : Binary64} : x.NonZero ↔ ¬ x.isZero = true := by
  rw [isZero_iff, not_exists]
  rfl

namespace RetryPolicy

/-- What is not zero in one policy is the same in the other. -/
structure KeptIn (p q : RetryPolicy) : Prop where
  maxAttempts : p.maxAttempts ≠ 0 → q.maxAttempts = p.maxAttempts
  multiplier : p.multiplier.NonZero → q.multiplier = p.multiplier
  maxBackoff : p.maxBackoff ≠ .zero → q.maxBackoff = p.maxBackoff
  initialBackoff : p.initialBackoff ≠ .zero → q.initialBackoff = p.initialBackoff

/-- Nothing is zero. -/
structure Filled (p : RetryPolicy) : Prop where
  maxAttempts : p.maxAttempts ≠ 0
  multiplier : p.multiplier.NonZero
  maxBackoff : p.maxBackoff ≠ .zero
  initialBackoff : p.initialBackoff ≠ .zero

variable {p q : RetryPolicy}

theorem KeptIn.eq_of_filled (h : p.KeptIn q) (hp : p.Filled) : q = p := by
  rcases p with ⟨attempts, multiplier, maxBackoff, initialBackoff⟩
  rcases q with ⟨attempts', multiplier', maxBackoff', initialBackoff'⟩
  rw [mk.injEq]
  exact ⟨h.maxAttempts hp.maxAttempts, h.multiplier hp.multiplier, h.maxBackoff hp.maxBackoff,
    h.initialBackoff hp.initialBackoff⟩

theorem keptIn_withDefaults (p : RetryPolicy) : p.KeptIn p.withDefaults where
  maxAttempts h := if_neg h
  multiplier h := if_neg (Binary64.nonZero_iff.1 h)
  maxBackoff h := Duration.fill_of_ne_zero h
  initialBackoff h := Duration.fill_of_ne_zero h

theorem filled_withDefaults (p : RetryPolicy) : p.withDefaults.Filled := by
  constructor
  · unfold withDefaults
    dsimp only
    split
    · decide
    · assumption
  · unfold withDefaults
    rw [Binary64.nonZero_iff]
    dsimp only
    split
    · decide +kernel
    · assumption
  · exact Duration.fill_ne_zero (by decide)
  · exact Duration.fill_ne_zero (by decide)

theorem withDefaults_withDefaults (p : RetryPolicy) :
    p.withDefaults.withDefaults = p.withDefaults :=
  (keptIn_withDefaults _).eq_of_filled (filled_withDefaults p)

theorem atLeastOne_defaultMultiplier : defaultMultiplier.atLeastOne = true := by decide +kernel

/-- A multiplier that has been filled in is at least one if it was, or if it was zero. -/
theorem atLeastOne_withDefaults :
    p.withDefaults.multiplier.atLeastOne = true ↔
      p.multiplier.isZero = true ∨ p.multiplier.atLeastOne = true := by
  have hmultiplier : p.withDefaults.multiplier =
      if p.multiplier.isZero then defaultMultiplier else p.multiplier := rfl
  by_cases hzero : p.multiplier.isZero = true
  · rw [hmultiplier, if_pos hzero]
    exact iff_of_true atLeastOne_defaultMultiplier (.inl hzero)
  · rw [hmultiplier, if_neg hzero]
    exact (or_iff_right hzero).symm

end RetryPolicy

namespace ProbePolicy

/-- What is not zero in one policy is the same in the other. -/
structure KeptIn (p q : ProbePolicy) : Prop where
  interval : p.interval ≠ .zero → q.interval = p.interval
  timeout : p.timeout ≠ .zero → q.timeout = p.timeout
  errorThreshold : p.errorThreshold ≠ 0 → q.errorThreshold = p.errorThreshold

/-- Nothing is zero. -/
structure Filled (p : ProbePolicy) : Prop where
  interval : p.interval ≠ .zero
  timeout : p.timeout ≠ .zero
  errorThreshold : p.errorThreshold ≠ 0

variable {p q : ProbePolicy}

theorem KeptIn.eq_of_filled (h : p.KeptIn q) (hp : p.Filled) : q = p := by
  rcases p with ⟨interval, timeout, threshold⟩
  rcases q with ⟨interval', timeout', threshold'⟩
  rw [mk.injEq]
  exact ⟨h.interval hp.interval, h.timeout hp.timeout, h.errorThreshold hp.errorThreshold⟩

theorem keptIn_withDefaults (p : ProbePolicy) : p.KeptIn p.withDefaults where
  interval h := Duration.fill_of_ne_zero h
  timeout h := Duration.fill_of_ne_zero h
  errorThreshold h := if_neg h

theorem filled_withDefaults (p : ProbePolicy) : p.withDefaults.Filled := by
  constructor
  · exact Duration.fill_ne_zero (by decide)
  · exact Duration.fill_ne_zero (by decide)
  · unfold withDefaults
    dsimp only
    split
    · decide
    · assumption

theorem withDefaults_withDefaults (p : ProbePolicy) :
    p.withDefaults.withDefaults = p.withDefaults :=
  (keptIn_withDefaults _).eq_of_filled (filled_withDefaults p)

end ProbePolicy

namespace PluginSettings

/-- What is not zero in one is the same in the other, and so is what has no default. -/
structure KeptIn (p q : PluginSettings) : Prop where
  socketAddress : q.socketAddress = p.socketAddress
  invokeInterval : p.invokeInterval ≠ .zero → q.invokeInterval = p.invokeInterval
  timeout : p.timeout ≠ .zero → q.timeout = p.timeout
  skipInitialStatus : q.skipInitialStatus = p.skipInitialStatus
  retry : p.retry.KeptIn q.retry
  probe : p.probe.KeptIn q.probe
  parameters : q.parameters = p.parameters

theorem keptIn_withDefaults (p : PluginSettings) : p.KeptIn p.withDefaults where
  socketAddress := rfl
  invokeInterval h := Duration.fill_of_ne_zero h
  timeout h := Duration.fill_of_ne_zero h
  skipInitialStatus := rfl
  retry := p.retry.keptIn_withDefaults
  probe := p.probe.keptIn_withDefaults
  parameters := rfl

theorem withDefaults_withDefaults (p : PluginSettings) :
    p.withDefaults.withDefaults = p.withDefaults := by
  have hinterval : p.withDefaults.invokeInterval ≠ .zero := Duration.fill_ne_zero (by decide)
  have htimeout : p.withDefaults.timeout ≠ .zero := Duration.fill_ne_zero (by decide)
  rw [mk.injEq]
  exact ⟨rfl, Duration.fill_of_ne_zero hinterval, Duration.fill_of_ne_zero htimeout, rfl,
    p.retry.withDefaults_withDefaults, p.probe.withDefaults_withDefaults, rfl⟩

end PluginSettings

namespace Settings

/-- What is not zero in one is the same in the other, and so is what has no default. Metrics are
reported. -/
structure KeptIn (s t : Settings) : Prop where
  plugin : t.plugin = s.plugin
  pluginSettings : s.pluginSettings.KeptIn t.pluginSettings
  source : t.source = s.source
  metricsReporting : t.metricsReporting = true
  conditions : t.conditions = s.conditions

theorem keptIn_withDefaults (s : Settings) : s.KeptIn s.withDefaults where
  plugin := rfl
  pluginSettings := s.pluginSettings.keptIn_withDefaults
  source := rfl
  metricsReporting := rfl
  conditions := rfl

theorem withDefaults_withDefaults (s : Settings) :
    s.withDefaults.withDefaults = s.withDefaults := by
  rw [mk.injEq]
  exact ⟨rfl, s.pluginSettings.withDefaults_withDefaults, rfl, rfl, rfl⟩

end Settings

/-! What is demanded of settings. -/

namespace ConditionDefinition

/-- No text is empty. -/
structure Complete (c : ConditionDefinition) : Prop where
  type : c.type ≠ ""
  reason : c.reason ≠ ""
  message : c.message ≠ ""

theorem emptyField?_eq_none_iff {c : ConditionDefinition} :
    c.emptyField? = none ↔ c.Complete := by
  unfold emptyField?
  constructor
  · intro h
    split at h
    · cases h
    split at h
    · cases h
    split at h
    · cases h
    constructor <;> simp_all
  · intro h
    simp [h.type, h.reason, h.message]

end ConditionDefinition

namespace Settings

theorem incomplete?_eq_none_iff {index : Nat} {conditions : List ConditionDefinition} :
    incomplete? index conditions = none ↔ ∀ c ∈ conditions, c.Complete := by
  induction conditions generalizing index with
  | nil => simp [incomplete?]
  | cons c conditions ih =>
    rw [List.forall_mem_cons, ← ConditionDefinition.emptyField?_eq_none_iff, incomplete?]
    cases hfield : c.emptyField? with
    | none => simpa using ih
    | some field => simp

/-- The condition that the error names lacks the text that it names. -/
theorem incomplete?_eq_some {index : Nat} {conditions : List ConditionDefinition}
    (h : incomplete? index conditions = some e) :
    ∃ k field c, e = .incompleteCondition (index + k) field ∧ conditions[k]? = some c ∧
      c.emptyField? = some field := by
  induction conditions generalizing index with
  | nil => cases h
  | cons c conditions ih =>
    rw [incomplete?] at h
    cases hfield : c.emptyField? with
    | some field =>
      rw [hfield] at h
      exact ⟨0, field, c, (Option.some.inj h).symm, rfl, hfield⟩
    | none =>
      rw [hfield] at h
      obtain ⟨k, field, c', rfl, hc', hfield'⟩ := ih h
      refine ⟨k + 1, field, c', ?_, hc', hfield'⟩
      rw [Nat.add_assoc, Nat.add_comm 1]

/-- The settings meet every demand. -/
structure Runnable (s : Settings) : Prop where
  plugin : s.plugin = externalPlugin
  source : s.source ≠ ""
  socketAddress : s.pluginSettings.socketAddress ≠ ""
  interval : ¬ s.pollInterval < minInterval
  timeout : ¬ s.callTimeout < minInterval
  timeout_lt : ¬ s.pollInterval ≤ s.callTimeout
  maxAttempts : s.pluginSettings.retry.maxAttempts ≠ 0
  multiplier : s.pluginSettings.retry.multiplier.atLeastOne = true
  errorThreshold : s.pluginSettings.probe.errorThreshold ≠ 0
  probeInterval : s.probeInterval ≠ .zero
  conditions : ∀ c ∈ s.conditions, c.Complete

/-- The settings do not meet the demand that the error is about. -/
def Violates (s : Settings) : SettingsError → Prop
  | .invalidPlugin got => got = s.plugin ∧ got ≠ externalPlugin
  | .missingField field =>
    (field = "source" ∧ s.source = "") ∨
      (field = "pluginConfig.socketAddress" ∧ s.pluginSettings.socketAddress = "")
  | .intervalTooShort actual => actual = s.pollInterval ∧ actual < minInterval
  | .timeoutTooShort actual => actual = s.callTimeout ∧ actual < minInterval
  | .timeoutNotBelowInterval timeout interval =>
    timeout = s.callTimeout ∧ interval = s.pollInterval ∧ interval ≤ timeout
  | .maxAttemptsTooLow => s.pluginSettings.retry.maxAttempts = 0
  | .multiplierTooLow actual =>
    actual = s.pluginSettings.retry.multiplier ∧ actual.atLeastOne = false
  | .errorThresholdTooLow => s.pluginSettings.probe.errorThreshold = 0
  | .probeIntervalZero => s.probeInterval = .zero
  | .incompleteCondition index field =>
    ∃ c, s.conditions[index]? = some c ∧ c.emptyField? = some field
  | .invalidDuration _ _ | .unreadable _ _ | .unparsable _ => False

/-- The verdict is right: every demand is met, or the one that the error is about is not. -/
def Judged (s : Settings) : Except SettingsError Unit → Prop
  | .ok _ => s.Runnable
  | .error e => s.Violates e

theorem judged_check (s : Settings) : s.Judged s.check := by
  unfold check
  dsimp only
  split
  case isTrue hplugin => exact ⟨rfl, hplugin⟩
  split
  case isTrue hsource => exact .inl ⟨rfl, by simpa using hsource⟩
  split
  case isTrue hsocket => exact .inr ⟨rfl, by simpa using hsocket⟩
  split
  case isTrue hinterval => exact ⟨rfl, hinterval⟩
  split
  case isTrue htimeout => exact ⟨rfl, htimeout⟩
  split
  case isTrue hle => exact ⟨rfl, rfl, hle⟩
  split
  case isTrue hattempts => exact hattempts
  split
  case isTrue hmultiplier => exact ⟨rfl, by simpa using hmultiplier⟩
  split
  case isTrue hthreshold => exact hthreshold
  split
  case isTrue hprobe => exact Duration.isZero_iff.1 hprobe
  case isFalse hplugin hsource hsocket hinterval htimeout hlt hattempts hmultiplier hthreshold
      hprobe =>
    cases hconditions : incomplete? 0 s.conditions with
    | none =>
      exact {
        plugin := not_not.1 hplugin
        source := by simpa using hsource
        socketAddress := by simpa using hsocket
        interval := hinterval
        timeout := htimeout
        timeout_lt := hlt
        maxAttempts := hattempts
        multiplier := by simpa using hmultiplier
        errorThreshold := hthreshold
        probeInterval := mt Duration.isZero_iff.2 hprobe
        conditions := incomplete?_eq_none_iff.1 hconditions }
    | some e =>
      obtain ⟨k, field, c, rfl, hc, hfield⟩ := incomplete?_eq_some hconditions
      rw [Nat.zero_add]
      exact ⟨c, hc, hfield⟩

theorem violates_of_check (h : s.check = .error e) : s.Violates e := by
  have hjudged := s.judged_check
  rwa [h] at hjudged

/-- No error is about settings that meet every demand. -/
theorem Runnable.not_violates (h : s.Runnable) (e : SettingsError) : ¬ s.Violates e := by
  intro he
  cases e with
  | invalidPlugin got =>
    obtain ⟨rfl, hplugin⟩ := he
    exact hplugin h.plugin
  | missingField field =>
    rcases he with ⟨-, hsource⟩ | ⟨-, hsocket⟩
    · exact h.source hsource
    · exact h.socketAddress hsocket
  | intervalTooShort actual =>
    obtain ⟨rfl, hinterval⟩ := he
    exact h.interval hinterval
  | timeoutTooShort actual =>
    obtain ⟨rfl, htimeout⟩ := he
    exact h.timeout htimeout
  | timeoutNotBelowInterval timeout interval =>
    obtain ⟨rfl, rfl, hle⟩ := he
    exact h.timeout_lt hle
  | maxAttemptsTooLow => exact h.maxAttempts he
  | multiplierTooLow actual =>
    obtain ⟨rfl, hmultiplier⟩ := he
    rw [h.multiplier] at hmultiplier
    cases hmultiplier
  | errorThresholdTooLow => exact h.errorThreshold he
  | probeIntervalZero => exact h.probeInterval he
  | incompleteCondition index field =>
    obtain ⟨c, hc, hfield⟩ := he
    have hcomplete := h.conditions c (List.mem_of_getElem? hc)
    rw [ConditionDefinition.emptyField?_eq_none_iff.2 hcomplete] at hfield
    cases hfield
  | invalidDuration input reason => exact he
  | unreadable path message => exact he
  | unparsable fault => exact he

theorem check_eq_ok_iff : s.check = .ok () ↔ s.Runnable := by
  constructor
  · intro h
    have hjudged := s.judged_check
    rwa [h] at hjudged
  · intro h
    cases hcheck : s.check with
    | ok u => rfl
    | error e => exact absurd (violates_of_check hcheck) (h.not_violates e)

/-- What a monitor can run with, in terms of settings in which zeros have not been filled in. -/
structure Acceptable (s : Settings) : Prop where
  plugin : s.plugin = "external"
  source : s.source ≠ ""
  socketAddress : s.pluginSettings.socketAddress ≠ ""
  /-- Without a time limit it is 10 seconds. -/
  timeout : .ofSeconds 1 ≤ (if s.callTimeout = .zero then .ofSeconds 10 else s.callTimeout)
  /-- Without an interval it is 30 seconds. -/
  timeout_lt : (if s.callTimeout = .zero then .ofSeconds 10 else s.callTimeout) <
    (if s.pollInterval = .zero then .ofSeconds 30 else s.pollInterval)
  multiplier : (∃ negative, s.pluginSettings.retry.multiplier = .signed negative .zero) ∨
    ∃ a, s.pluginSettings.retry.multiplier = .signed false a ∧ unitsPerOne ≤ a.units
  conditions : ∀ c ∈ s.conditions, c.type ≠ "" ∧ c.reason ≠ "" ∧ c.message ≠ ""

theorem pollInterval_withDefaults (s : Settings) :
    s.withDefaults.pollInterval =
      if s.pollInterval = .zero then .ofSeconds 30 else s.pollInterval :=
  if_congr Duration.isZero_iff rfl rfl

theorem callTimeout_withDefaults (s : Settings) :
    s.withDefaults.callTimeout =
      if s.callTimeout = .zero then .ofSeconds 10 else s.callTimeout :=
  if_congr Duration.isZero_iff rfl rfl

theorem runnable_withDefaults_iff : s.withDefaults.Runnable ↔ s.Acceptable := by
  have hmultiplier := @RetryPolicy.atLeastOne_withDefaults s.pluginSettings.retry
  rw [Binary64.isZero_iff, @Binary64.atLeastOne_iff s.pluginSettings.retry.multiplier]
    at hmultiplier
  have hinterval := s.pollInterval_withDefaults
  have htimeout := s.callTimeout_withDefaults
  constructor
  · intro h
    constructor
    · exact h.plugin
    · exact h.source
    · exact h.socketAddress
    · rw [← htimeout]
      exact Nat.not_lt.1 h.timeout
    · rw [← htimeout, ← hinterval]
      exact Nat.not_le.1 h.timeout_lt
    · exact hmultiplier.1 h.multiplier
    · intro c hc
      obtain ⟨htype, hreason, hmessage⟩ := h.conditions c hc
      exact ⟨htype, hreason, hmessage⟩
  · intro h
    have hle := h.timeout
    have hlt := h.timeout_lt
    rw [← htimeout] at hle hlt
    rw [← hinterval] at hlt
    constructor
    · exact h.plugin
    · exact h.source
    · exact h.socketAddress
    · exact Nat.not_lt.2 (Nat.le_of_lt (Nat.lt_of_le_of_lt hle hlt))
    · exact Nat.not_lt.2 hle
    · exact Nat.not_le.2 hlt
    · exact (RetryPolicy.filled_withDefaults _).maxAttempts
    · exact hmultiplier.2 h.multiplier
    · exact (ProbePolicy.filled_withDefaults _).errorThreshold
    · exact (ProbePolicy.filled_withDefaults _).interval
    · intro c hc
      obtain ⟨htype, hreason, hmessage⟩ := h.conditions c hc
      exact ⟨htype, hreason, hmessage⟩

end Settings

/-- A poll every ten seconds leaves too little time for the time limit that is filled in. -/
example :
    let s := Settings.new "gpu" "/run/gpu.sock"
    let p := { s.pluginSettings with invokeInterval := .ofSeconds 10 }
    { s with pluginSettings := p }.withDefaults.check =
      .error (.timeoutNotBelowInterval (.ofSeconds 10) (.ofSeconds 10)) := by
  rfl

/-! Settings from files, and monitors from settings. -/

/-- The error is about a zero that would have been filled in. -/
def SettingsError.IsOfZero : SettingsError → Prop
  | .maxAttemptsTooLow | .errorThresholdTooLow | .probeIntervalZero => True
  | _ => False

namespace Settings

theorem not_isOfZero_of_check (h : s.withDefaults.check = .error e) : ¬ e.IsOfZero := by
  have hviolates := violates_of_check h
  intro hzero
  cases e with
  | maxAttemptsTooLow => exact (RetryPolicy.filled_withDefaults _).maxAttempts hviolates
  | errorThresholdTooLow => exact (ProbePolicy.filled_withDefaults _).errorThreshold hviolates
  | probeIntervalZero => exact (ProbePolicy.filled_withDefaults _).interval hviolates
  | _ => exact hzero

theorem not_isOfZero_of_ofFile (h : ofFile files path = .error e) : ¬ e.IsOfZero := by
  unfold ofFile parse at h
  intro hzero
  split at h
  · cases h
    exact hzero
  split at h <;> cases h
  exact hzero

theorem load_of_error (h : ofFile files path = .error e) : load files path = .error e := by
  simp [load, h, bind, Except.bind]

theorem load_of_ok (h : ofFile files path = .ok s) :
    load files path = s.withDefaults.check.map fun _ => s.withDefaults := by
  cases hcheck : s.withDefaults.check <;>
    simp [load, h, hcheck, bind, Except.bind, Except.map, pure, Except.pure]

/-- Settings load if they are acceptable as they stand in the file. -/
theorem ofFile_of_load (h : load files path = .ok t) :
    ∃ s, ofFile files path = .ok s ∧ s.Acceptable ∧ t = s.withDefaults := by
  cases hfile : ofFile files path with
  | error e =>
    rw [load_of_error hfile] at h
    cases h
  | ok s =>
    rw [load_of_ok hfile] at h
    cases hcheck : s.withDefaults.check with
    | error e =>
      rw [hcheck] at h
      cases h
    | ok u =>
      rw [hcheck] at h
      cases h
      exact ⟨s, rfl, runnable_withDefaults_iff.1 (check_eq_ok_iff.1 hcheck), rfl⟩

theorem not_isOfZero_of_load (h : load files path = .error e) : ¬ e.IsOfZero := by
  cases hfile : ofFile files path with
  | error e' =>
    rw [load_of_error hfile] at h
    cases h
    exact not_isOfZero_of_ofFile hfile
  | ok s =>
    rw [load_of_ok hfile] at h
    cases hcheck : s.withDefaults.check with
    | error e' =>
      rw [hcheck] at h
      cases h
      exact not_isOfZero_of_check hcheck
    | ok u =>
      rw [hcheck] at h
      cases h

/-- Settings that load have no zero to be filled in, and are accepted. -/
theorem filled_of_load (h : load files path = .ok t) : t.withDefaults = t ∧ t.check = .ok () := by
  obtain ⟨s, -, hs, rfl⟩ := ofFile_of_load h
  exact ⟨s.withDefaults_withDefaults, check_eq_ok_iff.2 (runnable_withDefaults_iff.2 hs)⟩

end Settings

namespace Monitor

/-- A monitor comes of settings that load. Without them there is the error met in loading. -/
def BuiltFrom (built : Except RelayError Monitor) : Except SettingsError Settings → Prop
  | .ok s => ∃ m, built = .ok m ∧ m.settings = s
  | .error e => built = .error (.settings e)

theorem builtFrom_load (link : Link) (path : String) :
    BuiltFrom (load link path) (Settings.load link.files path) := by
  cases hload : Settings.load link.files path with
  | error e => simp [BuiltFrom, load, hload]
  | ok s =>
    obtain ⟨-, hcheck⟩ := Settings.filled_of_load hload
    simp only [BuiltFrom, load, hload, new, hcheck]
    exact ⟨_, rfl, rfl⟩

end Monitor

namespace Registry

theorem kind?_registerExternal (h : r.registerExternal = .ok r') :
    r'.kind? externalName = some .external := by
  unfold registerExternal register at h
  split at h <;> cases h
  exact Table.get?_insert_self r.kinds externalName .external

theorem builtFrom_create (h : r.kind? externalName = some .external) (files : FileTree)
    (path : String) :
    Monitor.BuiltFrom (r.create externalName files path) (Settings.load files path) := by
  simp only [create, h]
  exact Monitor.builtFrom_load (.new .socket files .silent) path

end Registry

/-- Filling in zeros is done once and changes nothing but zeros, and the report of metrics. What
comes of it is accepted exactly if the settings were acceptable. So no error of loading is about a
zero, settings that load are complete and accepted, and they are all that a monitor needs, whatever
link it has and whether it is built directly or by a registry. -/
theorem settings_accepted (s : Settings) (link : Link) (files : FileTree) (path : String)
    (r : Registry) :
    s.withDefaults.withDefaults = s.withDefaults ∧ s.KeptIn s.withDefaults ∧
    (s.withDefaults.check = .ok () ↔ s.Acceptable) ∧
    (∀ e, Settings.load files path = .error e → ¬ e.IsOfZero) ∧
    (∀ t, Settings.load files path = .ok t → t.withDefaults = t ∧ t.check = .ok ()) ∧
    Monitor.BuiltFrom (Monitor.load link path) (Settings.load link.files path) ∧
    (r.kind? Registry.externalName = some .external →
      Monitor.BuiltFrom (r.create Registry.externalName files path) (Settings.load files path)) ∧
    (∀ r', r.registerExternal = .ok r' → r'.kind? Registry.externalName = some .external) := by
  refine ⟨s.withDefaults_withDefaults, s.keptIn_withDefaults, ?_, ?_, ?_, ?_, ?_, ?_⟩
  · rw [Settings.check_eq_ok_iff]
    exact Settings.runnable_withDefaults_iff
  · intro e h
    exact Settings.not_isOfZero_of_load h
  · intro t h
    exact Settings.filled_of_load h
  · exact Monitor.builtFrom_load link path
  · intro h
    exact Registry.builtFrom_create h files path
  · intro r' h
    exact Registry.kind?_registerExternal h

end HealthRelay
