import HealthRelay.Proofs.Frame

/-!
Attempts to connect again that have begun and have not ended: there is one at most.
-/
namespace HealthRelay.Scene

variable {s t : Scene} {now : Nat}

/-- Attempts in their delay, and made but not ended: one while the relay says that one is under
way, else none. -/
def Tracked (s : Scene) : Prop :=
  s.asleep + s.ending = if s.relay.connection.reconnecting then 1 else 0

theorem tracked_beginAttempt (hs : Tracked s) : Tracked (s.beginAttempt now) := by
  obtain ⟨-, heq⟩ | ⟨-, -, heq⟩ | ⟨-, -, -, journal, heq⟩ | ⟨hidle, -, -, journal, heq⟩ :=
    s.relay.beginAttempt_cases now <;> simp only [beginAttempt, heq]
  · exact hs
  · exact hs
  · exact hs
  · have hzero : s.asleep + s.ending = 0 := by simpa [Tracked, hidle] using hs
    simp only [Tracked, fallAsleep, note, relay]
    simp
    omega

/-- No step loses track of an attempt, nor lets a second one begin beside it. -/
theorem tracked_step (h : Step s t) (hs : Tracked s) : Tracked t := by
  cases h with
  | connect => simpa [Tracked] using hs
  | recordFailure e => simpa [Tracked] using hs
  | beginAttempt now => exact tracked_beginAttempt hs
  | wake h =>
    have hcount : s.wake.asleep + s.wake.ending = s.asleep + s.ending := by
      simp only [wake]
      omega
    have hsame : s.wake.relay.connection.reconnecting = s.relay.connection.reconnecting :=
      Relay.wakeAttempt_reconnecting
    rwa [Tracked, hcount, hsame]
  | finish h =>
    have hle : s.asleep + s.ending ≤ 1 := by
      rw [hs]
      split <;> omega
    change s.asleep + (s.ending - 1) = 0
    omega
  | ask h =>
    obtain ⟨session, link, -, -, rfl⟩ := Relay.ask?_eq_some h
    exact hs
  | emit status =>
    obtain ⟨dropped, journal, heq⟩ := s.emit_relay status
    rwa [Tracked, heq]
  | take => simpa [Tracked] using hs
  | remark | closeSession | recordSuccess | sever | setReachable | setFiles | signal |
    leave | retire => exact hs

theorem tracked_run (b : Beginning) (actions : List Action) : Tracked (b.scene.run actions) :=
  (steps_run b.scene actions).keep tracked_step rfl

end HealthRelay.Scene
