import HealthRelay.Proofs.InFlight
import HealthRelay.Proofs.Onsets

/-!
How close attempts to connect again may follow one another.

An attempt is admitted unless another is under way or the last admitted one began less than a second
ago. The connection keeps the start of that one through all that may happen in between.
-/
namespace HealthRelay

variable {s t : Scene} {r : Relay} {now : Nat} {history : List Milestone}

/-- When an attempt began, if it was admitted. -/
def Onset.start? (now : Nat) (onset : Onset) : Option Nat :=
  if onset.isAdmitted then some now else none

/-- The least time between the starts of two attempts is a second. -/
theorem Connection.isTooSoon_iff {c : Connection} :
    c.isTooSoon now = true ↔ ∃ last ∈ c.lastAttempt, now < last + 1000000000 := by
  have hsecond : reconnectDebounce.nanos = 1000000000 := rfl
  rw [isTooSoon, Option.any_eq_true, hsecond]
  constructor
  · rintro ⟨last, hlast, hsoon⟩
    have hgap := of_decide_eq_true hsoon
    exact ⟨last, hlast, by omega⟩
  · rintro ⟨last, hlast, hsoon⟩
    exact ⟨last, hlast, decide_eq_true (by omega)⟩

/-- When the attempt began that an action leads to, if it leads to one that is admitted. -/
def Scene.start? (s : Scene) (a : Action) : Option Nat := do (← s.onset? a).start? (← a.now?)

/-- When the admitted attempts of a run began, the first one first. -/
def Scene.starts (s : Scene) (actions : List Action) : List Nat :=
  (each start? s actions).filterMap id

/-- When an attempt began that the milestone tells of. -/
def Milestone.start? : Milestone → Option Nat
  | .began now _ | .abandoned now => some now
  | .connected | .reconnected | .failed _ | .succeeded | .accepted _ | .received _ => none

/-- The starts that a history tells of. -/
def startsIn (history : List Milestone) : List Nat := history.filterMap Milestone.start?

theorem startsIn_eq : startsIn history = (onsetsIn history).filterMap Milestone.start? := by
  rw [startsIn, onsetsIn, List.filterMap_filter]
  congr 1
  funext m
  cases m <;> rfl

theorem Onset.starts_told (onset : Onset) :
    (onset.told now).filterMap Milestone.start? = (onset.start? now).toList := by
  cases onset with
  | refused outcome => cases outcome <;> rfl
  | waiting delay => rfl

namespace Relay

@[simp] theorem connect_lastAttempt :
    r.connect.2.connection.lastAttempt = r.connection.lastAttempt := by
  obtain ⟨e, -, heq⟩ | ⟨id, link, identity, journal, -, heq⟩ := r.connect_cases <;> rw [heq] <;>
    rfl

@[simp] theorem wakeAttempt_lastAttempt :
    r.wakeAttempt.2.connection.lastAttempt = r.connection.lastAttempt := by
  obtain heq | ⟨journal, heq⟩ | ⟨e, journal, -, heq⟩ | ⟨journal, -, heq⟩ := r.wakeAttempt_cases <;>
    rw [heq] <;> simp

end Relay

namespace Scene

/-- The history of an action tells of the start of its attempt, and of no other. -/
theorem startsIn_perform (s : Scene) (a : Action) :
    startsIn (s.perform a).history = startsIn s.history ++ (s.start? a).toList := by
  have htold : (s.told a).filterMap Milestone.start? = (s.start? a).toList := by
    rw [told, start?]
    cases a.now? with
    | none => cases s.onset? a <;> rfl
    | some now =>
      cases s.onset? a with
      | none => rfl
      | some onset => exact onset.starts_told
  rw [startsIn_eq, onsetsIn_perform, List.filterMap_append, htold, ← startsIn_eq]

theorem startsIn_run (s : Scene) (actions : List Action) :
    startsIn (s.run actions).history = startsIn s.history ++ s.starts actions := by
  induction actions generalizing s with
  | nil => simp [run, starts, each]
  | cons a actions ih =>
    have hrest := ih (s.perform a)
    rw [startsIn_perform, List.append_assoc] at hrest
    rw [run, List.foldl_cons, ← run, hrest, starts, starts, each]
    cases s.start? a <;> rfl

/-- The connection knows when the last admitted attempt began, and none began sooner after another
than is allowed. -/
structure Paced (s : Scene) : Prop where
  last : s.relay.connection.lastAttempt = (startsIn s.history).getLast?
  apart : (startsIn s.history).Pairwise fun first next => first + 1000000000 ≤ next

theorem Paced.of_same (hs : Paced s) (honsets : onsetsIn t.history = onsetsIn s.history)
    (hlast : t.relay.connection.lastAttempt = s.relay.connection.lastAttempt) : Paced t := by
  have hstarts : startsIn t.history = startsIn s.history := by
    rw [startsIn_eq, honsets, ← startsIn_eq]
  exact ⟨by rw [hlast, hstarts, hs.last], hstarts ▸ hs.apart⟩

/-- An attempt that is admitted is far enough from the last one, and so from all before it. -/
theorem Paced.admit (hs : Paced s) (hready : s.relay.connection.isTooSoon now = false)
    (hstarts : startsIn t.history = startsIn s.history ++ [now])
    (hlast : t.relay.connection.lastAttempt = some now) : Paced t where
  last := by rw [hlast, hstarts, List.getLast?_concat]
  apart := by
    have hapart := hs.apart
    rw [hstarts, List.pairwise_append]
    refine ⟨hapart, List.pairwise_singleton _ _, ?_⟩
    intro first hfirst next hnext
    obtain rfl := List.mem_singleton.1 hnext
    -- The connection compares the clock with the last start only; the others lie before that.
    rcases List.eq_nil_or_concat (startsIn s.history) with hnil | ⟨before, last, hbefore⟩
    · rw [hnil] at hfirst
      cases hfirst
    · rw [List.concat_eq_append] at hbefore
      rw [hbefore, List.pairwise_append] at hapart
      rw [hbefore, List.mem_append] at hfirst
      have hgap : last + 1000000000 ≤ next := by
        apply Nat.not_lt.1
        intro hclose
        have hmem : last ∈ s.relay.connection.lastAttempt := by simp [hs.last, hbefore]
        have hsoon := Connection.isTooSoon_iff.2 ⟨last, hmem, hclose⟩
        rw [hready] at hsoon
        cases hsoon
      rcases hfirst with hfirst | hfirst
      · have hearlier := hapart.2.2 first hfirst last List.mem_cons_self
        omega
      · rwa [List.mem_singleton.1 hfirst]

theorem paced_beginAttempt (hs : Paced s) : Paced (s.beginAttempt now) := by
  have hrelay : (s.beginAttempt now).relay = (s.relay.beginAttempt now).2 := rfl
  have hhistory : (s.beginAttempt now).history = s.history ++ s.relay.onsetMilestones now := rfl
  obtain ⟨-, heq⟩ | ⟨-, -, heq⟩ | ⟨-, hready, -, journal, heq⟩ | ⟨-, hready, -, journal, heq⟩ :=
    s.relay.beginAttempt_cases now
  all_goals
    rw [heq] at hrelay
    simp only [Relay.onsetMilestones, heq, List.append_nil] at hhistory
  · exact hs.of_same (by rw [hhistory]) (by rw [hrelay])
  · exact hs.of_same (by rw [hhistory]) (by rw [hrelay])
  · exact hs.admit hready (by rw [hhistory, startsIn, List.filterMap_append]; rfl) (by rw [hrelay])
  · exact hs.admit hready (by rw [hhistory, startsIn, List.filterMap_append]; rfl) (by rw [hrelay])

theorem paced_step (h : Step s t) (hs : Paced s) : Paced t := by
  cases h with
  | connect => exact hs.of_same (by simp) Relay.connect_lastAttempt
  | recordFailure e =>
    exact hs.of_same (by simp [Milestone.isOnset]) Relay.recordFailure_lastAttempt
  | beginAttempt now => exact paced_beginAttempt hs
  | wake h => exact hs.of_same (by simp [Scene.wake]) Relay.wakeAttempt_lastAttempt
  | ask h =>
    obtain ⟨session, link, -, -, rfl⟩ := Relay.ask?_eq_some h
    exact hs.of_same (by simp) rfl
  | emit status =>
    obtain ⟨dropped, journal, hrelay⟩ := s.emit_relay status
    exact hs.of_same (by simp) (by rw [hrelay])
  | take => exact hs.of_same (by simp) (by simp)
  | remark | closeSession | recordSuccess | finish | sever | setReachable | setFiles | signal |
    leave | retire => exact hs.of_same (by simp [Milestone.isOnset, Scene.finish]) rfl

theorem paced_initial (b : Beginning) : Paced b.scene where
  last := rfl
  apart := .nil

theorem paced_run (b : Beginning) (actions : List Action) : Paced (b.scene.run actions) :=
  (steps_run b.scene actions).keep paced_step (paced_initial b)

end Scene

namespace Relay

/-- What comes after the delay refuses no attempt. -/
theorem isAdmitted_wakeAttempt (r : Relay) : r.wakeAttempt.1.isAdmitted = true := by
  obtain heq | ⟨journal, heq⟩ | ⟨e, journal, -, heq⟩ | ⟨journal, -, heq⟩ := r.wakeAttempt_cases <;>
    rw [heq] <;> rfl

/-- A whole attempt is admitted if its beginning is. -/
theorem isAdmitted_attemptReconnection (r : Relay) (now : Nat) :
    (r.attemptReconnection now).1.isAdmitted = (r.beginAttempt now).1.isAdmitted := by
  rw [attemptReconnection]
  rcases r.beginAttempt now with ⟨outcome | delay, begun⟩
  · rfl
  · exact begun.isAdmitted_wakeAttempt

theorem finishAttempt_ne_debounced (r : Relay) : r.finishAttempt.1 ≠ .debounced := by
  intro hdebounced
  have hadmitted : r.finishAttempt.1.isAdmitted = true := r.isAdmitted_wakeAttempt
  rw [hdebounced] at hadmitted
  cases hadmitted

/-- An attempt is debounced if none is under way and the last admitted one is too recent. -/
theorem attemptReconnection_eq_debounced_iff :
    (r.attemptReconnection now).1 = .debounced ↔
      r.connection.reconnecting = false ∧ r.connection.isTooSoon now = true := by
  rw [attemptReconnection]
  obtain ⟨hbusy, heq⟩ | ⟨hidle, hsoon, heq⟩ | ⟨-, hready, -, journal, heq⟩ |
    ⟨-, hready, -, journal, heq⟩ := r.beginAttempt_cases now <;> rw [heq]
  · exact iff_of_false (by simp) (by simp [hbusy])
  · exact iff_of_true rfl ⟨hidle, hsoon⟩
  · exact iff_of_false (by simp) (by simp [hready])
  · exact iff_of_false (finishAttempt_ne_debounced _) (by simp [hready])

end Relay

/-- No attempt is in flight just when the relay says that none is under way. -/
theorem Scene.Tracked.idle_iff (h : s.Tracked) :
    s.relay.connection.reconnecting = false ↔ s.asleep = 0 ∧ s.ending = 0 := by
  rw [← Nat.add_eq_zero_iff, h]
  cases s.relay.connection.reconnecting <;> simp

/-- However the clock is read, and whatever is done in whatever order, two attempts to connect again
that are admitted begin at least a second apart; and one is debounced just when none is in flight
and the last admitted one began less than a second before. -/
theorem attempts_a_second_apart (b : Beginning) (actions : List Action) :
    let s := b.scene.run actions
    let starts := b.scene.starts actions
    (starts.Pairwise fun first next => first + 1000000000 ≤ next) ∧
    (∀ now, (s.relay.attemptReconnection now).1 = .debounced ↔
      s.asleep = 0 ∧ s.ending = 0 ∧ ∃ last ∈ starts.getLast?, now < last + 1000000000) ∧
    (∀ now, (s.relay.attemptReconnection now).1.isAdmitted =
      (s.relay.beginAttempt now).1.isAdmitted) ∧
    s.relay.wakeAttempt.1.isAdmitted = true := by
  intro s starts
  have hpaced : s.Paced := Scene.paced_run b actions
  have hstarts : startsIn s.history = starts := Scene.startsIn_run b.scene actions
  refine ⟨hstarts ▸ hpaced.apart, ?_, s.relay.isAdmitted_attemptReconnection,
    s.relay.isAdmitted_wakeAttempt⟩
  intro now
  have hsoon : s.relay.connection.isTooSoon now = true ↔
      ∃ last ∈ starts.getLast?, now < last + 1000000000 := by
    rw [Connection.isTooSoon_iff, hpaced.last, hstarts]
  rw [Relay.attemptReconnection_eq_debounced_iff, (Scene.tracked_run b actions).idle_iff, hsoon,
    and_assoc]

end HealthRelay
