import HealthRelay.Proofs.Acceptance

/-!
What is demanded of settings, in order, and that checking them reports the first demand that is not
met, with the values at fault.
-/
namespace HealthRelay

/-- The texts of a condition. -/
inductive ConditionText where
  | type
  | reason
  | message

namespace ConditionText

/-- The name of the text in an error. -/
def name : ConditionText → String
  | .type => "type"
  | .reason => "reason"
  | .message => "message"

/-- The order in which the texts of a condition are looked at. -/
def place : ConditionText → ℕ
  | .type => 0
  | .reason => 1
  | .message => 2

theorem place_lt (t : ConditionText) : t.place < 3 := by
  cases t <;> decide

theorem eq_of_place_eq {t u : ConditionText} (h : t.place = u.place) : t = u := by
  cases t <;> cases u <;> first | rfl | cases h

end ConditionText

/-- One thing that is demanded of settings. -/
inductive Demand where
  | plugin
  | source
  | socketAddress
  | interval
  | timeout
  | timeoutBelowInterval
  | attempts
  | multiplier
  | errorThreshold
  | probeInterval
  /-- The condition with this index has this text. -/
  | conditionText (index : ℕ) (text : ConditionText)

namespace Demand

/-- The order in which demands are looked at: those on conditions come last, one condition after
another. -/
def place : Demand → ℕ
  | .plugin => 0
  | .source => 1
  | .socketAddress => 2
  | .interval => 3
  | .timeout => 4
  | .timeoutBelowInterval => 5
  | .attempts => 6
  | .multiplier => 7
  | .errorThreshold => 8
  | .probeInterval => 9
  | .conditionText index text => 10 + 3 * index + text.place

theorem eq_of_place_eq {d d' : Demand} (h : d.place = d'.place) : d = d' := by
  cases d <;> cases d' <;> simp only [place] at h
  case conditionText.conditionText index t index' u =>
    -- The text is the remainder by three.
    have ht := t.place_lt
    have hu := u.place_lt
    have hindex : index = index' := by omega
    have htext : t = u := ConditionText.eq_of_place_eq (by omega)
    rw [hindex, htext]
  all_goals first | rfl | omega

end Demand

namespace ConditionDefinition

/-- One of the texts of a condition. -/
def text (c : ConditionDefinition) : ConditionText → String
  | .type => c.type
  | .reason => c.reason
  | .message => c.message

/-- The text that is found empty is the first one that is. -/
theorem emptyField?_eq_some {c : ConditionDefinition} {field : String}
    (h : c.emptyField? = some field) :
    ∃ t : ConditionText, field = t.name ∧ c.text t = "" ∧
      ∀ u : ConditionText, u.place < t.place → c.text u ≠ "" := by
  unfold emptyField? at h
  split at h
  case isTrue htype =>
    refine ⟨.type, (Option.some.inj h).symm, by simpa [text] using htype, ?_⟩
    intro u hu
    cases hu
  split at h
  case isTrue htype hreason =>
    refine ⟨.reason, (Option.some.inj h).symm, by simpa [text] using hreason, ?_⟩
    intro u hu
    cases u with
    | type => simpa [text] using htype
    | reason => cases hu.ne rfl
    | message => simp [ConditionText.place] at hu
  split at h
  case isTrue htype hreason hmessage =>
    refine ⟨.message, (Option.some.inj h).symm, by simpa [text] using hmessage, ?_⟩
    intro u hu
    cases u with
    | type => simpa [text] using htype
    | reason => simpa [text] using hreason
    | message => cases hu.ne rfl
  case isFalse => cases h

theorem Complete.text_ne {c : ConditionDefinition} (h : c.Complete) (t : ConditionText) :
    c.text t ≠ "" := by
  cases t with
  | type => exact h.type
  | reason => exact h.reason
  | message => exact h.message

end ConditionDefinition

namespace Settings

variable {s : Settings} {n : ℕ}

/-- The settings meet a demand. -/
def Meets (s : Settings) : Demand → Prop
  | .plugin => s.plugin = "external"
  | .source => s.source ≠ ""
  | .socketAddress => s.pluginSettings.socketAddress ≠ ""
  | .interval => .ofSeconds 1 ≤ s.pollInterval
  | .timeout => .ofSeconds 1 ≤ s.callTimeout
  | .timeoutBelowInterval => s.callTimeout < s.pollInterval
  | .attempts => 1 ≤ s.pluginSettings.retry.maxAttempts.toNat
  | .multiplier => ∃ a, s.pluginSettings.retry.multiplier = .signed false a ∧
      unitsPerOne ≤ a.units
  | .errorThreshold => 1 ≤ s.errorThreshold
  | .probeInterval => s.probeInterval ≠ .zero
  | .conditionText index text => ∀ c, s.conditions[index]? = some c → c.text text ≠ ""

/-- The error that says that a demand is not met. -/
def complaint (s : Settings) : Demand → SettingsError
  | .plugin => .invalidPlugin s.plugin
  | .source => .missingField "source"
  | .socketAddress => .missingField "pluginConfig.socketAddress"
  | .interval => .intervalTooShort s.pollInterval
  | .timeout => .timeoutTooShort s.callTimeout
  | .timeoutBelowInterval => .timeoutNotBelowInterval s.callTimeout s.pollInterval
  | .attempts => .maxAttemptsTooLow
  | .multiplier => .multiplierTooLow s.pluginSettings.retry.multiplier
  | .errorThreshold => .errorThresholdTooLow
  | .probeInterval => .probeIntervalZero
  | .conditionText index text => .incompleteCondition index text.name

/-- All demands before this place are met. -/
def MeetsBelow (s : Settings) (n : ℕ) : Prop := ∀ d : Demand, d.place < n → s.Meets d

/-- The demand is not met, and it is the first one that is not. -/
def FirstUnmet (s : Settings) (d : Demand) : Prop := ¬ s.Meets d ∧ s.MeetsBelow d.place

theorem MeetsBelow.next {d : Demand} (h : s.MeetsBelow d.place) (hd : s.Meets d) :
    s.MeetsBelow (d.place + 1) := by
  intro d' hd'
  by_cases hlt : d'.place < d.place
  · exact h d' hlt
  · have heq : d'.place = d.place := by omega
    rw [Demand.eq_of_place_eq heq]
    exact hd

theorem FirstUnmet.unique {d d' : Demand} (h : s.FirstUnmet d) (h' : s.FirstUnmet d') : d = d' := by
  apply Demand.eq_of_place_eq
  by_contra hne
  rcases Nat.lt_or_gt_of_ne hne with hlt | hgt
  · exact h.1 (h'.2 d hlt)
  · exact h'.1 (h.2 d' hgt)

/-- The verdict is right: every demand is met, or the error is about the first one that is not. -/
def FirstFault (s : Settings) : Except SettingsError Unit → Prop
  | .ok _ => ∀ d, s.Meets d
  | .error e => ∃ d, s.FirstUnmet d ∧ e = s.complaint d

/-- Looking at one demand when all those before it are met. -/
theorem firstFault_demand {c : Prop} [Decidable c] {rest : Except SettingsError Unit} (d : Demand)
    (hbelow : s.MeetsBelow d.place) (hc : c ↔ ¬ s.Meets d)
    (hrest : s.MeetsBelow (d.place + 1) → s.FirstFault rest) :
    s.FirstFault (if c then .error (s.complaint d) else rest) := by
  by_cases h : c
  · rw [if_pos h]
    exact ⟨d, ⟨hc.1 h, hbelow⟩, rfl⟩
  · rw [if_neg h]
    have hd : s.Meets d := by
      by_contra hnot
      exact h (hc.2 hnot)
    exact hrest (hbelow.next hd)

/-- Conditions before the one that is found incomplete are complete. -/
theorem complete_of_incomplete? {index k : ℕ} {field : String}
    {conditions : List ConditionDefinition}
    (h : incomplete? index conditions = some (.incompleteCondition (index + k) field)) :
    ∀ i < k, ∀ c, conditions[i]? = some c → c.Complete := by
  induction conditions generalizing index k with
  | nil => cases h
  | cons c conditions ih =>
    rw [incomplete?] at h
    intro i hi c' hc'
    cases hfield : c.emptyField? with
    | some found =>
      rw [hfield] at h
      have hindex : index = index + k := by
        injection h with h
        injection h
      omega
    | none =>
      rw [hfield] at h
      cases i with
      | zero =>
        obtain rfl : c = c' := by simpa using hc'
        exact ConditionDefinition.emptyField?_eq_none_iff.1 hfield
      | succ i =>
        obtain ⟨k, rfl⟩ : ∃ k', k = k' + 1 := ⟨k - 1, by omega⟩
        rw [show index + (k + 1) = index + 1 + k by omega] at h
        exact ih h i (by omega) c' hc'

/-- Looking at the conditions when all other demands are met. -/
theorem firstFault_conditions (h : s.MeetsBelow 10) :
    s.FirstFault ((incomplete? 0 s.conditions).elim (.ok ()) .error) := by
  cases hconditions : incomplete? 0 s.conditions with
  | none =>
    intro d
    cases d with
    | conditionText index t =>
      intro c hc
      exact (incomplete?_eq_none_iff.1 hconditions c (List.mem_of_getElem? hc)).text_ne t
    | _ => exact h _ (by decide)
  | some e =>
    obtain ⟨k, field, c, rfl, hc, hfield⟩ := incomplete?_eq_some hconditions
    have hcomplete := complete_of_incomplete? hconditions
    obtain ⟨t, rfl, hempty, hfilled⟩ := ConditionDefinition.emptyField?_eq_some hfield
    refine ⟨.conditionText k t, ⟨fun hmeets => hmeets c hc hempty, ?_⟩, by rw [Nat.zero_add]; rfl⟩
    intro d hd
    cases d with
    | conditionText index u =>
      intro c' hc'
      have ht := t.place_lt
      simp only [Demand.place] at hd
      rcases Nat.lt_or_ge index k with hlt | hge
      · exact (hcomplete index hlt c' hc').text_ne u
      · obtain rfl : index = k := by omega
        obtain rfl : c = c' := Option.some.inj (hc.symm.trans hc')
        exact hfilled u (by omega)
    | _ => exact h _ (by decide)

theorem firstFault_check (s : Settings) : s.FirstFault s.check := by
  have hnone : s.MeetsBelow Demand.plugin.place := by
    intro d hd
    cases hd
  have hcount (n : UInt32) : n = 0 ↔ ¬ 1 ≤ n.toNat := by
    rw [← UInt32.toNat_inj, UInt32.toNat_zero]
    omega
  have hprobe : s.pluginSettings.probe.interval.isZero = true ↔ ¬ s.Meets .probeInterval :=
    Duration.isZero_iff.trans not_not.symm
  -- One demand after another, with those before it met.
  unfold check
  refine firstFault_demand .plugin hnone Iff.rfl fun h => ?_
  refine firstFault_demand .source h (by simp [Meets]) fun h => ?_
  refine firstFault_demand .socketAddress h (by simp [Meets]) fun h => ?_
  refine firstFault_demand .interval h Nat.not_le.symm fun h => ?_
  refine firstFault_demand .timeout h Nat.not_le.symm fun h => ?_
  refine firstFault_demand .timeoutBelowInterval h Nat.not_lt.symm fun h => ?_
  refine firstFault_demand .attempts h (hcount _) fun h => ?_
  refine firstFault_demand .multiplier h (by simp [Meets, ← Binary64.atLeastOne_iff]) fun h => ?_
  refine firstFault_demand .errorThreshold h (hcount _) fun h => ?_
  refine firstFault_demand .probeInterval h hprobe fun h => ?_
  exact firstFault_conditions h

/-- Settings that meet every demand are accepted. Otherwise the error is about the first demand
that is not met, and about no other. -/
theorem first_violation_reported (s : Settings) :
    (s.check = .ok () ↔ ∀ d, s.Meets d) ∧
      ∀ e, s.check = .error e ↔
        ∃ d, ¬ s.Meets d ∧ (∀ d' : Demand, d'.place < d.place → s.Meets d') ∧
          e = s.complaint d := by
  have hfault := s.firstFault_check
  cases hcheck : s.check with
  | ok u =>
    rw [hcheck] at hfault
    refine ⟨iff_of_true rfl hfault, fun e => iff_of_false (by simp) ?_⟩
    rintro ⟨d, hd, -⟩
    exact hd (hfault d)
  | error e =>
    rw [hcheck] at hfault
    obtain ⟨d, hd, rfl⟩ := hfault
    refine ⟨iff_of_false (by simp) fun h => hd.1 (h d), fun e => ?_⟩
    constructor
    · intro h
      cases h
      exact ⟨d, hd.1, hd.2, rfl⟩
    · rintro ⟨d', hd', hbelow, rfl⟩
      rw [hd.unique ⟨hd', hbelow⟩]

end Settings

/-- An interval of half a second that is also shorter than the time limit is called too short. -/
example :
    let s := (Settings.new "gpu" "/run/gpu.sock").withDefaults
    let p := { s.pluginSettings with invokeInterval := ⟨500000000, by decide⟩ }
    { s with pluginSettings := p }.check = .error (.intervalTooShort ⟨500000000, by decide⟩) := by
  rfl

end HealthRelay
