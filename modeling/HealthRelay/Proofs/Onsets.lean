import HealthRelay.Proofs.Clocks
import HealthRelay.Proofs.Effect

/-!
How attempts to connect again begin, and what a history tells of that.

An action leads to one attempt at most, and the history of the action tells how that one began, if
it was admitted, and of no other.
-/
namespace HealthRelay

variable {s : Scene} {r : Relay} {a : Action} {onset : Onset} {now now' : Nat} {delay : Duration}
  {e : CallError} {history milestones : List Milestone}

/-- The attempt was neither too soon after the last one, nor was another under way. -/
def Outcome.isAdmitted : Outcome → Bool
  | .debounced | .inProgress => false
  | .gaveUp | .interrupted | .endpointMissing | .failed | .connected => true

namespace Onset

def isAdmitted : Onset → Bool
  | .refused outcome => outcome.isAdmitted
  | .waiting _ => true

/-- What a history has to tell of an attempt that begins like this. -/
def told (now : Nat) : Onset → List Milestone
  | .refused outcome => if outcome.isAdmitted then [.abandoned now] else []
  | .waiting delay => [.began now delay]

theorem began_mem_told_iff :
    .began now' delay ∈ onset.told now ↔ now' = now ∧ onset = .waiting delay := by
  cases onset with
  | refused outcome => cases outcome <;> simp [told, Outcome.isAdmitted]
  | waiting delay' => simp [told, eq_comm]

end Onset

/-- The milestone tells how an attempt began. -/
def Milestone.isOnset : Milestone → Bool
  | .began _ _ | .abandoned _ => true
  | .connected | .reconnected | .failed _ | .succeeded | .accepted _ | .received _ => false

/-- What a history tells of how attempts began. -/
def onsetsIn (history : List Milestone) : List Milestone := history.filter Milestone.isOnset

@[simp] theorem onsetsIn_nil : onsetsIn [] = [] := rfl

@[simp] theorem onsetsIn_append :
    onsetsIn (history ++ milestones) = onsetsIn history ++ onsetsIn milestones :=
  List.filter_append ..

@[simp] theorem onsetsIn_cons (m : Milestone) :
    onsetsIn (m :: history) = if m.isOnset then m :: onsetsIn history else onsetsIn history :=
  List.filter_cons ..

@[simp] theorem onsetsIn_accepted (statuses : List Status) :
    onsetsIn (statuses.map .accepted) = [] := by
  simp [onsetsIn, Milestone.isOnset]

namespace Relay

@[simp] theorem onsetsIn_connectMilestones : onsetsIn r.connectMilestones = [] := by
  unfold connectMilestones
  split <;> rfl

@[simp] theorem onsetsIn_wakeMilestones : onsetsIn r.wakeMilestones = [] := by
  unfold wakeMilestones
  split <;> rfl

theorem onsetsIn_onsetMilestones :
    onsetsIn (r.onsetMilestones now) = (r.beginAttempt now).1.told now := by
  unfold onsetMilestones
  obtain ⟨-, heq⟩ | ⟨-, -, heq⟩ | ⟨-, -, -, journal, heq⟩ | ⟨-, -, -, journal, heq⟩ :=
    r.beginAttempt_cases now <;> rw [heq] <;> rfl

theorem onsetsIn_attemptMilestones :
    onsetsIn (r.attemptMilestones now) = (r.beginAttempt now).1.told now := by
  rw [← onsetsIn_onsetMilestones]
  unfold attemptMilestones
  split <;> simp

section

variable {attempt : Relay → List Milestone}
  (hattempt : ∀ u : Relay, onsetsIn (attempt u) = (u.beginAttempt now).1.told now)
include hattempt

theorem onsetsIn_failureMilestones :
    onsetsIn (r.failureMilestones attempt e) =
      (r.failureOnset? now e).elim [] (Onset.told now) := by
  rw [failureMilestones, failureOnset?]
  rcases r.recordFailure e with ⟨_ | _, recorded⟩
  · rfl
  · exact hattempt recorded

theorem onsetsIn_askMilestones :
    onsetsIn (r.askMilestones attempt) = (r.askOnset? now).elim [] (Onset.told now) := by
  rw [askMilestones, askOnset?]
  rcases r.ask? with _ | ⟨e | report, asked⟩
  · rfl
  · exact onsetsIn_failureMilestones hattempt
  · rfl

end

/-- An attempt goes on to its delay if none is under way, the last one is not too recent, and not
all have been made. -/
theorem beginAttempt_eq_waiting_iff :
    (r.beginAttempt now).1 = .waiting delay ↔
      r.connection.reconnecting = false ∧ r.connection.isTooSoon now = false ∧
      r.connection.attempts < r.retry.maxAttempts.toNat ∧
      delay = r.retry.delay r.connection.attempts := by
  obtain ⟨hbusy, heq⟩ | ⟨-, hsoon, heq⟩ | ⟨-, -, hspent, journal, heq⟩ |
    ⟨hidle, hready, hroom, journal, heq⟩ := r.beginAttempt_cases now <;> rw [heq]
  · exact iff_of_false (by simp) (by simp [hbusy])
  · exact iff_of_false (by simp) (by simp [hsoon])
  · have hle : r.retry.maxAttempts.toNat ≤ r.connection.attempts := by
      simpa [RetryPolicy.isSpent] using hspent
    refine iff_of_false (by simp) ?_
    rintro ⟨-, -, hlt, -⟩
    omega
  · have hlt : r.connection.attempts < r.retry.maxAttempts.toNat := by
      simpa [RetryPolicy.isSpent] using hroom
    simp [hidle, hready, hlt, eq_comm]

@[simp] theorem recordFailure_lastAttempt :
    (r.recordFailure e).2.connection.lastAttempt = r.connection.lastAttempt := by
  rw [recordFailure_connection]
  split <;> rfl

@[simp] theorem recordFailure_attempts :
    (r.recordFailure e).2.connection.attempts = r.connection.attempts := by
  rw [recordFailure_connection]
  split <;> rfl

/-- The failure that leads to an attempt makes no difference to how that begins. -/
theorem eq_of_failureOnset? (h : r.failureOnset? now e = some onset) :
    onset = (r.beginAttempt now).1 := by
  rw [failureOnset?] at h
  split at h <;> cases h
  apply beginAttempt_fst_congr <;> simp [retry]

theorem eq_of_askOnset? (h : r.askOnset? now = some onset) : onset = (r.beginAttempt now).1 := by
  rw [askOnset?] at h
  split at h
  next e asked hask =>
    obtain ⟨session, link, -, -, rfl⟩ := ask?_eq_some hask
    rw [eq_of_failureOnset? h]
    exact beginAttempt_fst_congr rfl rfl rfl rfl
  · cases h

end Relay

/-- What the steady clock says to an action that reads it. -/
def Action.now? : Action → Option Nat
  | .attempt now | .fail now _ | .poll now _ | .beginAttempt now | .beginFail now _ |
    .beginPoll now _ => some now
  | _ => none

namespace Scene

/-- What the history of an action has to tell of how the attempt began that it leads to. -/
def told (s : Scene) (a : Action) : List Milestone :=
  a.now?.elim [] fun now => (s.onset? a).elim [] (Onset.told now)

theorem eq_of_onset? (hnow : a.now? = some now) (h : s.onset? a = some onset) :
    onset = (s.relay.beginAttempt now).1 := by
  cases a with
  | attempt | beginAttempt =>
    cases hnow
    exact (Option.some.inj h).symm
  | fail | beginFail =>
    cases hnow
    exact Relay.eq_of_failureOnset? h
  | poll | beginPoll =>
    cases hnow
    rw [onset?] at h
    split at h
    · exact Relay.eq_of_askOnset? h
    · cases h
  | _ => cases hnow

/-- A turn tells of its own milestones only: what the queue takes is no attempt. -/
@[simp] theorem onsetsIn_turn (p : Poller) :
    onsetsIn (s.turn milestones p).history = onsetsIn s.history ++ onsetsIn milestones := by
  simp [turn]

@[simp] theorem onsetsIn_hand (q : Stream) :
    onsetsIn (s.hand milestones q).history = onsetsIn s.history ++ onsetsIn milestones :=
  onsetsIn_append

@[simp] theorem onsetsIn_take (s : Scene) : onsetsIn (take s).history = onsetsIn s.history := by
  obtain ⟨status, q, heq⟩ | ⟨q, heq⟩ := s.take_cases <;> simp [heq, Milestone.isOnset]

/-- An action that does not read the clock leads to no attempt. -/
theorem onsetsIn_perform_of_not_timed (h : a.isTimed = false) :
    onsetsIn (s.perform a).history = onsetsIn s.history := by
  cases a with
  | attempt | fail | poll | beginAttempt | beginFail | beginPoll => cases h
  | sendInitial stamp => by_cases hopen : s.outbox.senderOpen = true <;> simp [perform, work, hopen]
  | wake => by_cases hasleep : 0 < s.asleep <;> simp [perform, Scene.wake, hasleep]
  | finish => by_cases hending : 0 < s.ending <;> simp [perform, Scene.finish, hending]
  | tryRecv =>
    rcases h : s.outbox.take with ⟨status | _ | _, q⟩ <;>
      simp [perform, Stream.tryRecv, h, Milestone.isOnset]
  | recvTimeout limit =>
    rcases h : s.outbox.take with ⟨status | _ | _, q⟩ <;>
      simp [perform, Stream.recvTimeout, h, Milestone.isOnset]
  | recv =>
    rcases h : s.outbox.take with ⟨status | _ | _, q⟩ <;>
      simp [perform, Stream.recv?, h, Milestone.isOnset]
  | connect | succeed | closeSession | sever | setReachable | setFiles | signal | leave |
    retire => simp [perform, Milestone.isOnset]

/-- The history of an action tells how its attempt began, and of no other. -/
theorem onsetsIn_perform (s : Scene) (a : Action) :
    onsetsIn (s.perform a).history = onsetsIn s.history ++ s.told a := by
  cases a with
  | attempt now =>
    simp [perform, Relay.onsetsIn_attemptMilestones, told, onset?, Action.now?]
  | fail now e =>
    simp [perform, Relay.onsetsIn_failureMilestones fun u => u.onsetsIn_attemptMilestones, told,
      onset?, Action.now?]
  | poll now stamp =>
    by_cases hopen : s.outbox.senderOpen = true <;>
      simp [perform, work, Relay.onsetsIn_askMilestones fun u => u.onsetsIn_attemptMilestones,
        told, onset?, Action.now?, hopen]
  | beginAttempt now =>
    simp [perform, beginAttempt, Relay.onsetsIn_onsetMilestones, told, onset?, Action.now?]
  | beginFail now e =>
    simp [perform, Relay.onsetsIn_failureMilestones fun u => u.onsetsIn_onsetMilestones, told,
      onset?, Action.now?]
  | beginPoll now stamp =>
    by_cases hopen : s.outbox.senderOpen = true <;>
      simp [perform, work, Relay.onsetsIn_askMilestones fun u => u.onsetsIn_onsetMilestones,
        told, onset?, Action.now?, hopen]
  | _ =>
    rw [onsetsIn_perform_of_not_timed rfl]
    simp [told, onset?, Action.now?]

/-- An action has an attempt go on to its delay just if it leads to one that finds none under way,
the last one not too recent, and not all made. -/
theorem began_mem_perform_iff :
    .began now delay ∈ (s.perform a).history.drop s.history.length ↔
      a.now? = some now ∧ (s.onset? a).isSome = true ∧
      s.relay.connection.reconnecting = false ∧ s.relay.connection.isTooSoon now = false ∧
      s.relay.connection.attempts < s.relay.retry.maxAttempts.toNat ∧
      delay = s.relay.retry.delay s.relay.connection.attempts := by
  obtain ⟨gained, hgained⟩ := s.history_run [a]
  have hperform : (s.perform a).history = s.history ++ gained := hgained.symm
  have honsets : onsetsIn gained = s.told a := by
    have hall := s.onsetsIn_perform a
    rw [hperform, onsetsIn_append] at hall
    exact List.append_cancel_left hall
  have htold : Milestone.began now delay ∈ gained ↔ .began now delay ∈ onsetsIn gained := by
    simp [onsetsIn, Milestone.isOnset]
  rw [hperform, List.drop_left, htold, honsets, ← Relay.beginAttempt_eq_waiting_iff, told]
  cases hnow : a.now? with
  | none => simp
  | some now' =>
    cases honset : s.onset? a with
    | none => simp
    | some onset =>
      rw [eq_of_onset? hnow honset, Option.elim_some, Option.elim_some, Onset.began_mem_told_iff]
      constructor
      · rintro ⟨rfl, hwaiting⟩
        exact ⟨rfl, rfl, hwaiting⟩
      · rintro ⟨hsame, -, hwaiting⟩
        obtain rfl := Option.some.inj hsame
        exact ⟨rfl, hwaiting⟩

end Scene

end HealthRelay
