import HealthRelay.Proofs.InFlight
import HealthRelay.Proofs.Onsets
import HealthRelay.Proofs.Ownership

/-!
How often and after which delays a relay tries to connect again.

The count of attempts is that of the history since a session was last opened, each attempt waits for
the delay of its number, and when all have been made no further one is, until a session is opened on
request.
-/
namespace HealthRelay

variable {s t : Scene} {policy : RetryPolicy} {history : List Milestone} {now : Nat}

namespace Milestone

/-- A session was opened, or an attempt went into its delay. -/
def concernsAttempts : Milestone → Bool
  | .connected | .reconnected | .began _ _ => true
  | .abandoned _ | .failed _ | .succeeded | .accepted _ | .received _ => false

/-- The attempts that count after one more milestone: an opened session makes all begin anew. -/
def tally (attempts : Nat) : Milestone → Nat
  | .connected | .reconnected => 0
  | .began _ _ => attempts + 1
  | .abandoned _ | .failed _ | .succeeded | .accepted _ | .received _ => attempts

theorem tally_of_not_concerns {m : Milestone} (h : m.concernsAttempts = false) (n : Nat) :
    m.tally n = n := by
  cases m <;> simp_all [concernsAttempts, tally]

end Milestone

/-- The attempts that went into their delay since a session was last opened. -/
def attemptsSinceOpened (history : List Milestone) : Nat := history.foldl Milestone.tally 0

/-- Each attempt waited for the delay of its number. -/
def Scheduled (policy : RetryPolicy) (history : List Milestone) : Prop :=
  ∀ before now delay after, history = before ++ .began now delay :: after →
    delay = policy.delay (attemptsSinceOpened before)

theorem attemptsSinceOpened_append_singleton (m : Milestone) :
    attemptsSinceOpened (history ++ [m]) = m.tally (attemptsSinceOpened history) := by
  simp [attemptsSinceOpened]

theorem attemptsSinceOpened_append {milestones : List Milestone}
    (h : ∀ m ∈ milestones, m.concernsAttempts = false) :
    attemptsSinceOpened (history ++ milestones) = attemptsSinceOpened history := by
  induction milestones generalizing history with
  | nil => simp
  | cons m milestones ih =>
    rw [List.append_cons, ih fun m hm => h m (List.mem_cons_of_mem _ hm),
      attemptsSinceOpened_append_singleton,
      Milestone.tally_of_not_concerns (h m List.mem_cons_self)]

theorem scheduled_append_singleton (h : Scheduled policy history) {m : Milestone}
    (hm : ∀ now delay, m = .began now delay → delay = policy.delay (attemptsSinceOpened history)) :
    Scheduled policy (history ++ [m]) := by
  intro before now delay after heq
  rcases List.eq_nil_or_concat after with rfl | ⟨rest, last, rfl⟩
  · obtain ⟨rfl, hlast⟩ := List.append_inj' heq rfl
    exact hm now delay (List.singleton_inj.1 hlast)
  · rw [List.concat_eq_append, ← List.cons_append, ← List.append_assoc] at heq
    exact h before now delay rest (List.append_inj' heq rfl).1

theorem scheduled_append (h : Scheduled policy history) {milestones : List Milestone}
    (hm : ∀ m ∈ milestones, m.concernsAttempts = false) :
    Scheduled policy (history ++ milestones) := by
  induction milestones generalizing history with
  | nil => simpa using h
  | cons m milestones ih =>
    rw [List.append_cons]
    apply ih
    · apply scheduled_append_singleton h
      rintro now delay rfl
      simpa [Milestone.concernsAttempts] using hm _ List.mem_cons_self
    · exact fun m hmem => hm m (List.mem_cons_of_mem _ hmem)

namespace Scene

/-- What a step means for the attempts. -/
inductive Account (s t : Scene) : Prop where
  | quiet (milestones : List Milestone)
      (history : t.history = s.history ++ milestones)
      (neutral : ∀ m ∈ milestones, m.concernsAttempts = false)
      (attempts : t.relay.connection.attempts = s.relay.connection.attempts)
      (gaveUp : t.relay.connection.gaveUp = true →
        s.relay.connection.gaveUp = true ∨
          s.relay.retry.isSpent s.relay.connection.attempts = true)
      (asleep : t.asleep ≤ s.asleep)
      (sessions : t.relay.link.openCount = s.relay.link.openCount)
  | opened (milestone : Milestone)
      (history : t.history = s.history ++ [milestone])
      (opening : milestone = .connected ∨ milestone = .reconnected ∧ 0 < s.asleep)
      (attempts : t.relay.connection.attempts = 0)
      (gaveUp : t.relay.connection.gaveUp = false)
  | begun (now : Nat)
      (history : t.history =
        s.history ++ [.began now (s.relay.retry.delay s.relay.connection.attempts)])
      (room : s.relay.retry.isSpent s.relay.connection.attempts = false)
      (attempts : t.relay.connection.attempts = s.relay.connection.attempts + 1)
      (gaveUp : t.relay.connection.gaveUp = s.relay.connection.gaveUp)

/-- A step that leaves no milestone and nothing of what counts is quiet. -/
theorem account_of_same (hhistory : t.history = s.history)
    (hattempts : t.relay.connection.attempts = s.relay.connection.attempts)
    (hgaveUp : t.relay.connection.gaveUp = s.relay.connection.gaveUp)
    (hasleep : t.asleep ≤ s.asleep)
    (hsessions : t.relay.link.openCount = s.relay.link.openCount) : Account s t := by
  refine .quiet [] ?_ (by simp) hattempts ?_ hasleep hsessions
  · rw [hhistory, List.append_nil]
  · intro h
    exact .inl (hgaveUp ▸ h)

theorem account_connect : Account s (s.note s.relay.connectMilestones s.relay.connect.2) := by
  obtain ⟨e, -, heq⟩ | ⟨id, link, identity, journal, -, heq⟩ := s.relay.connect_cases
  · have hmilestones : s.relay.connectMilestones = [] := by
      simp only [Relay.connectMilestones, heq]
    rw [hmilestones, heq]
    exact account_of_same (List.append_nil _) rfl rfl le_rfl s.relay.openCount_closeSession
  · have hmilestones : s.relay.connectMilestones = [.connected] := by
      simp only [Relay.connectMilestones, heq]
    rw [hmilestones, heq]
    exact .opened .connected rfl (.inl rfl) rfl rfl

theorem account_wake (h : 0 < s.asleep) : Account s s.wake := by
  have hle : s.wake.asleep ≤ s.asleep := Nat.sub_le _ _
  have hrelay : s.wake.relay = s.relay.wakeAttempt.2 := rfl
  have hhistory : s.wake.history = s.history ++ s.relay.wakeMilestones := rfl
  obtain heq | ⟨journal, heq⟩ | ⟨e, journal, herr, heq⟩ | ⟨journal, hok, heq⟩ :=
    s.relay.wakeAttempt_cases
  all_goals
    rw [heq] at hrelay
    simp only [Relay.wakeMilestones, heq, List.append_nil] at hhistory
  · exact account_of_same hhistory (by rw [hrelay]) (by rw [hrelay]) hle (by rw [hrelay])
  · exact account_of_same hhistory (by rw [hrelay]) (by rw [hrelay]) hle (by rw [hrelay])
  · obtain ⟨e', -, hconnect⟩ | ⟨id, link, identity, _, -, hconnect⟩ := s.relay.connect_cases
    · rw [hconnect] at hrelay
      refine account_of_same hhistory ?_ ?_ hle ?_ <;> rw [hrelay]
      · rfl
      · rfl
      · exact s.relay.openCount_closeSession
    · simp [hconnect] at herr
  · obtain ⟨e', -, hconnect⟩ | ⟨id, link, identity, _, -, hconnect⟩ := s.relay.connect_cases
    · simp [hconnect] at hok
    · rw [hconnect] at hrelay
      refine .opened .reconnected hhistory (.inr ⟨rfl, h⟩) ?_ ?_ <;> rw [hrelay]
      · rfl
      · rfl

theorem account_beginAttempt : Account s (s.beginAttempt now) := by
  have hrelay : (s.beginAttempt now).relay = (s.relay.beginAttempt now).2 := rfl
  have hhistory : (s.beginAttempt now).history = s.history ++ s.relay.onsetMilestones now := rfl
  obtain ⟨-, heq⟩ | ⟨-, -, heq⟩ | ⟨-, -, hspent, journal, heq⟩ | ⟨-, -, hroom, journal, heq⟩ :=
    s.relay.beginAttempt_cases now
  all_goals
    rw [heq] at hrelay
    simp only [Relay.onsetMilestones, heq, List.append_nil] at hhistory
  · refine account_of_same hhistory (by rw [hrelay]) (by rw [hrelay]) ?_ (by rw [hrelay])
    simp [beginAttempt, heq, fallAsleep]
  · refine account_of_same hhistory (by rw [hrelay]) (by rw [hrelay]) ?_ (by rw [hrelay])
    simp [beginAttempt, heq, fallAsleep]
  · refine .quiet _ hhistory (by simp [Milestone.concernsAttempts]) (by rw [hrelay])
      (fun _ => .inr hspent) ?_ (by rw [hrelay])
    simp [beginAttempt, heq, fallAsleep]
  · exact .begun now hhistory hroom (by rw [hrelay]) (by rw [hrelay])

theorem account_step (h : Step s t) : Account s t := by
  cases h with
  | remark level text fields => exact account_of_same (List.append_nil _) rfl rfl le_rfl rfl
  | connect => exact account_connect
  | closeSession =>
    exact account_of_same (List.append_nil _) rfl rfl le_rfl s.relay.openCount_closeSession
  | recordSuccess =>
    exact .quiet [.succeeded] rfl (by simp [Milestone.concernsAttempts]) rfl .inl le_rfl rfl
  | recordFailure e =>
    refine .quiet [.failed e] rfl (by simp [Milestone.concernsAttempts]) ?_ ?_ le_rfl ?_
    · rw [note_relay, Relay.recordFailure_connection]
      split <;> rfl
    · rw [note_relay, Relay.recordFailure_connection]
      split <;> exact .inl
    · rw [note_relay, Relay.recordFailure_link]
  | beginAttempt now => exact account_beginAttempt
  | wake h => exact account_wake h
  | finish h => exact account_of_same (List.append_nil _) rfl rfl le_rfl rfl
  | ask h =>
    obtain ⟨session, link, -, hcall, rfl⟩ := Relay.ask?_eq_some h
    have hlink : (s.relay.link.checkHealth session _ _).2 = link := congrArg Prod.snd hcall
    exact account_of_same (List.append_nil _) rfl rfl le_rfl (hlink ▸ Link.openCount_call)
  | emit status =>
    obtain ⟨dropped, journal, hrelay⟩ := s.emit_relay status
    refine .quiet _ (by rw [turn, List.append_assoc]) ?_ ?_ ?_ le_rfl ?_
    · simp [Milestone.concernsAttempts]
    · rw [hrelay]
    · rw [hrelay]
      exact .inl
    · rw [hrelay]
  | sever => exact account_of_same (List.append_nil _) rfl rfl le_rfl Link.openCount_sever
  | setReachable | setFiles | signal | leave | retire =>
    exact account_of_same (List.append_nil _) rfl rfl le_rfl rfl
  | take =>
    obtain ⟨status, q, heq⟩ | ⟨q, heq⟩ := s.take_cases
    · rw [heq]
      exact .quiet [.received _] rfl (by simp [Milestone.concernsAttempts]) rfl .inl le_rfl rfl
    · rw [heq]
      exact account_of_same (List.append_nil _) rfl rfl le_rfl rfl

/-- The account is kept: the count is that of the history, it stays within the policy, and giving up
has a reason. -/
structure Budgeted (policy : RetryPolicy) (s : Scene) : Prop where
  policy_eq : s.relay.retry = policy
  attempts_le : s.relay.connection.attempts ≤ policy.maxAttempts.toNat
  counted : s.relay.connection.attempts = attemptsSinceOpened s.history
  scheduled : Scheduled policy s.history
  spent : s.relay.connection.gaveUp = true →
    policy.maxAttempts.toNat ≤ s.relay.connection.attempts

theorem retry_step (h : Step s t) : t.relay.retry = s.relay.retry := by
  rw [Relay.retry, Relay.retry, settings_step h]

theorem budgeted_step (h : Step s t) (hs : Budgeted policy s) : Budgeted policy t := by
  have hpolicy : t.relay.retry = policy := (retry_step h).trans hs.policy_eq
  cases account_step h with
  | quiet milestones hhistory hneutral hattempts hgaveUp hasleep hsessions =>
    refine ⟨hpolicy, ?_, ?_, ?_, ?_⟩
    · rw [hattempts]
      exact hs.attempts_le
    · rw [hattempts, hhistory, attemptsSinceOpened_append hneutral, hs.counted]
    · rw [hhistory]
      exact scheduled_append hs.scheduled hneutral
    · intro h'
      rw [hattempts]
      rcases hgaveUp h' with hgiven | hspent
      · exact hs.spent hgiven
      · simpa [RetryPolicy.isSpent, hs.policy_eq] using hspent
  | opened milestone hhistory hopening hattempts hgaveUp =>
    refine ⟨hpolicy, ?_, ?_, ?_, ?_⟩
    · omega
    · rw [hattempts, hhistory, attemptsSinceOpened_append_singleton]
      rcases hopening with rfl | ⟨rfl, -⟩ <;> rfl
    · rw [hhistory]
      apply scheduled_append_singleton hs.scheduled
      rintro now delay rfl
      simp at hopening
    · simp [hgaveUp]
  | begun now hhistory hroom hattempts hgaveUp =>
    have hlt : s.relay.connection.attempts < policy.maxAttempts.toNat := by
      simpa [RetryPolicy.isSpent, hs.policy_eq] using hroom
    refine ⟨hpolicy, ?_, ?_, ?_, ?_⟩
    · omega
    · rw [hattempts, hhistory, attemptsSinceOpened_append_singleton, hs.counted]
      rfl
    · rw [hhistory]
      apply scheduled_append_singleton hs.scheduled
      intro now' delay heq
      obtain ⟨-, rfl⟩ := Milestone.began.inj heq
      rw [hs.policy_eq, hs.counted]
    · intro h'
      have hfull := hs.spent (hgaveUp ▸ h')
      omega

theorem budgeted_initial (b : Beginning) : Budgeted b.retry b.scene where
  policy_eq := rfl
  attempts_le := Nat.zero_le _
  counted := rfl
  scheduled before now delay after h := by simp [Beginning.scene] at h
  spent h := by simp [Beginning.scene, relay, Poller.new, Relay.new, Connection.initial] at h

theorem budgeted_run (b : Beginning) (actions : List Action) :
    Budgeted b.retry (b.scene.run actions) :=
  (steps_run b.scene actions).keep budgeted_step (budgeted_initial b)

/-- What stays as it was while no attempt begins and no session is opened. -/
structure Stalled (s t : Scene) (gained : List Milestone) : Prop where
  neutral : ∀ m ∈ gained, m.concernsAttempts = false
  asleep : t.asleep = 0
  policy : t.relay.retry = s.relay.retry
  attempts : t.relay.connection.attempts = s.relay.connection.attempts
  sessions : t.relay.link.openCount = s.relay.link.openCount

/-- Since the first scene nothing has begun, unless a session was opened on request. -/
def StalledUntilConnected (s t : Scene) : Prop :=
  ∃ gained, t.history = s.history ++ gained ∧ (.connected ∈ gained ∨ Stalled s t gained)

theorem stalled_refl (h : s.asleep = 0) : StalledUntilConnected s s :=
  ⟨[], by simp, .inr ⟨by simp, h, rfl, rfl, rfl⟩⟩

/-- When all attempts have been made, only a session opened on request changes that. -/
theorem stalled_step {u : Scene}
    (hspent : s.relay.retry.isSpent s.relay.connection.attempts = true) (h : Step t u)
    (hs : StalledUntilConnected s t) : StalledUntilConnected s u := by
  obtain ⟨gained, hgained, hs⟩ := hs
  cases account_step h with
  | quiet milestones hhistory hneutral hattempts hgaveUp hasleep hsessions =>
    refine ⟨gained ++ milestones, ?_, ?_⟩
    · rw [hhistory, hgained, List.append_assoc]
    · refine hs.imp (List.mem_append_left _) fun hs => ?_
      refine ⟨?_, ?_, ?_, ?_, ?_⟩
      · simpa [or_imp, forall_and] using ⟨hs.neutral, hneutral⟩
      · have hzero := hs.asleep
        omega
      · rw [retry_step h, hs.policy]
      · rw [hattempts, hs.attempts]
      · rw [hsessions, hs.sessions]
  | opened milestone hhistory hopening hattempts hgaveUp =>
    refine ⟨gained ++ [milestone], ?_, ?_⟩
    · rw [hhistory, hgained, List.append_assoc]
    · rcases hopening with rfl | ⟨rfl, hasleep⟩
      · exact .inl (by simp)
      · refine .inl (List.mem_append_left _ ?_)
        rcases hs with hs | hs
        · exact hs
        · have hzero := hs.asleep
          omega
  | begun now hhistory hroom hattempts hgaveUp =>
    refine ⟨gained ++ [.began now (t.relay.retry.delay t.relay.connection.attempts)], ?_, ?_⟩
    · rw [hhistory, hgained, List.append_assoc]
    · refine .inl (List.mem_append_left _ ?_)
      rcases hs with hs | hs
      · exact hs
      · rw [hs.policy, hs.attempts, hspent] at hroom
        cases hroom

theorem stalled_run (hspent : s.relay.retry.isSpent s.relay.connection.attempts = true)
    (hasleep : s.asleep = 0) (actions : List Action) : StalledUntilConnected s (s.run actions) :=
  (steps_run s actions).keep (stalled_step hspent) (stalled_refl hasleep)

/-- Nothing is in its delay while no attempt is under way. -/
theorem Tracked.asleep_eq_zero (h : Tracked s) (hidle : s.relay.connection.reconnecting = false) :
    s.asleep = 0 := by
  have hzero : s.asleep + s.ending = 0 := by simpa [Tracked, hidle] using h
  omega

end Scene

/-- When all attempts have been made, one more is refused and does not get to the plugin. -/
theorem Relay.refused_of_isSpent {r : Relay} (h : r.retry.isSpent r.connection.attempts = true)
    (now : Nat) :
    ∃ outcome ∈ [Outcome.debounced, .inProgress, .gaveUp],
      (r.beginAttempt now).1 = .refused outcome ∧ (r.attemptReconnection now).1 = outcome ∧
        (r.attemptReconnection now).2.link = r.link := by
  obtain ⟨-, heq⟩ | ⟨-, -, heq⟩ | ⟨-, -, -, journal, heq⟩ | ⟨-, -, hroom, -⟩ :=
    r.beginAttempt_cases now
  · exact ⟨.inProgress, by simp, by rw [heq], by rw [attemptReconnection, heq],
      by rw [attemptReconnection, heq]⟩
  · exact ⟨.debounced, by simp, by rw [heq], by rw [attemptReconnection, heq],
      by rw [attemptReconnection, heq]⟩
  · exact ⟨.gaveUp, by simp, by rw [heq], by rw [attemptReconnection, heq],
      by rw [attemptReconnection, heq]⟩
  · rw [h] at hroom
    cases hroom

/-- Whatever is done in whatever order, attempts are counted from the last session that was opened,
are never more than the policy allows, and each waits for the delay of its number. One that is
called for counts just if none is under way, the last one is not too recent, and not all have been
made. When all have been made, none begins and none reaches the plugin, until a session is opened on
request. -/
theorem attempts_within_budget (b : Beginning) (actions : List Action) :
    let s := b.scene.run actions
    let c := s.relay.connection
    c.attempts ≤ b.retry.maxAttempts.toNat ∧
    c.attempts = attemptsSinceOpened s.history ∧
    (∀ a now delay, .began now delay ∈ (s.perform a).history.drop s.history.length ↔
      a.now? = some now ∧ (s.onset? a).isSome = true ∧
      c.reconnecting = false ∧ c.isTooSoon now = false ∧
      c.attempts < b.retry.maxAttempts.toNat ∧ delay = b.retry.delay c.attempts) ∧
    Scheduled b.retry s.history ∧
    (c.gaveUp = true → b.retry.maxAttempts.toNat ≤ c.attempts) ∧
    (c.reconnecting = false → c.attempts = b.retry.maxAttempts.toNat → ∀ later : List Action,
      let t := s.run later
      let gained := t.history.drop s.history.length
      .connected ∉ gained →
        .reconnected ∉ gained ∧ (∀ now delay, .began now delay ∉ gained) ∧
        t.relay.link.openCount = s.relay.link.openCount ∧
        ∀ now, ∃ outcome ∈ [Outcome.debounced, .inProgress, .gaveUp],
          (t.relay.beginAttempt now).1 = .refused outcome ∧
          (t.relay.attemptReconnection now).1 = outcome ∧
          (t.relay.attemptReconnection now).2.link = t.relay.link) := by
  intro s c
  have hs : Scene.Budgeted b.retry s := Scene.budgeted_run b actions
  refine ⟨hs.attempts_le, hs.counted, ?_, hs.scheduled, hs.spent, ?_⟩
  · intro a now delay
    rw [Scene.began_mem_perform_iff, hs.policy_eq]
  · intro hidle hall later t gained hconnected
    have hspent : s.relay.retry.isSpent s.relay.connection.attempts = true := by
      simpa [RetryPolicy.isSpent, hs.policy_eq] using hall.ge
    have hasleep : s.asleep = 0 := (Scene.tracked_run b actions).asleep_eq_zero hidle
    obtain ⟨milestones, hhistory, hstalled⟩ := Scene.stalled_run hspent hasleep later
    have hgained : gained = milestones := by
      simp only [gained, t, hhistory, List.drop_left]
    rw [hgained] at hconnected ⊢
    have ht : Scene.Stalled s t milestones := hstalled.resolve_left hconnected
    have hneutral (m : Milestone) (hm : m.concernsAttempts = true) : m ∉ milestones := by
      intro hmem
      simp [ht.neutral m hmem] at hm
    refine ⟨hneutral _ rfl, fun now delay => hneutral _ rfl, ht.sessions, ?_⟩
    apply Relay.refused_of_isSpent
    rw [ht.policy, ht.attempts, hspent]

end HealthRelay
