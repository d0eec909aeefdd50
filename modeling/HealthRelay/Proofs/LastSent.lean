import HealthRelay.Proofs.Step

/-!
What a poller measures change against: the report that the queue took last.
-/
namespace HealthRelay

variable {s t : Scene} {now : Nat} {stamp : Timestamp} {r : Relay} {milestones : List Milestone}

/-- What a condition says, but for when it came to say so. -/
def Condition.facts (c : Condition) : String × Presence × String × String :=
  (c.type, c.status, c.reason, c.message)

theorem Condition.sameState_iff (a b : Condition) : a.sameState b = true ↔ a.facts = b.facts := by
  simp [sameState, facts, and_assoc]

namespace Status

/-- What the conditions say, in order. -/
def facts (s : Status) : List (String × Presence × String × String) :=
  s.conditions.map Condition.facts

theorem conditionsEqual_iff (a b : List Condition) :
    conditionsEqual a b = true ↔ a.map Condition.facts = b.map Condition.facts := by
  induction a generalizing b with
  | nil => cases b <;> simp [conditionsEqual]
  | cons x a ih =>
    cases b with
    | nil => simp [conditionsEqual]
    | cons y b =>
      have hrest := ih b
      simp only [conditionsEqual, Bool.and_eq_true, beq_iff_eq] at hrest
      simp [conditionsEqual, ← hrest, Condition.sameState_iff, and_left_comm]

/-- A report is held back when it has no events and its conditions say what the last one said. -/
theorem shouldEmit_eq_false_iff (last : Option Status) (next : Status) :
    shouldEmit last next = false ↔
      ∃ status, last = some status ∧ next.events = [] ∧ status.facts = next.facts := by
  cases last with
  | none => simp [shouldEmit]
  | some status => simp [shouldEmit, conditionsEqual_iff, facts]

end Status

namespace Milestone

/-- The report, if the queue took one. -/
def accepted? : Milestone → Option Status
  | .accepted status => some status
  | _ => none

/-- A report went into the queue or came out of it. -/
def concernsQueue : Milestone → Bool
  | .accepted _ | .received _ => true
  | _ => false

end Milestone

/-- None of the milestones is about the queue. -/
def Aloof (milestones : List Milestone) : Prop := ∀ m ∈ milestones, m.concernsQueue = false

theorem Aloof.accepted (h : Aloof milestones) : milestones.filterMap Milestone.accepted? = [] := by
  rw [List.filterMap_eq_nil_iff]
  intro m hm
  cases m <;> first | rfl | cases h _ hm

namespace Relay

theorem aloof_connectMilestones (r : Relay) : Aloof r.connectMilestones := by
  rw [connectMilestones]
  split <;> simp [Aloof, Milestone.concernsQueue]

theorem aloof_onsetMilestones (r : Relay) (now : Nat) : Aloof (r.onsetMilestones now) := by
  rw [onsetMilestones]
  split <;> simp [Aloof, Milestone.concernsQueue]

theorem aloof_wakeMilestones (r : Relay) : Aloof r.wakeMilestones := by
  rw [wakeMilestones]
  split <;> simp [Aloof, Milestone.concernsQueue]

end Relay

theorem Queue.send_cases {α : Type} (q : Queue α) (a : α) :
    q.send a = (.gone, q) ∨ q.send a = (.full, q) ∨
      q.send a = (.accepted, { q with items := q.items ++ [a] }) := by
  rw [send]
  split
  · exact .inl rfl
  · split
    · exact .inr (.inl rfl)
    · exact .inr (.inr rfl)

/-- A report that is offered is taken, and then it is the last one sent; or all stays as it was. -/
theorem Poller.emit_cases (p : Poller) (status : Status) :
    ((p.outbox.send status).1 = .accepted ∧ (p.emit status).1 = .emitted ∧
      (p.emit status).2.lastSent = some status ∧
      p.outbox.taken (p.emit status).2.outbox = [status]) ∨
    ((p.outbox.send status).1 ≠ .accepted ∧ (p.emit status).1 = .dropped ∧
      (p.emit status).2.lastSent = p.lastSent ∧ (p.emit status).2.outbox = p.outbox) := by
  obtain heq | heq | heq := p.outbox.send_cases status
  · exact .inr (by simp [emit, heq, discard])
  · exact .inr (by simp [emit, heq, discard])
  · exact .inl (by simp [emit, heq, Queue.taken])

namespace Scene

/-- The reports that the queue has taken. -/
def sent (s : Scene) : List Status := s.history.filterMap Milestone.accepted?

@[simp] theorem sent_note :
    (s.note milestones r).sent = s.sent ++ milestones.filterMap Milestone.accepted? := by
  simp [sent]

theorem sent_turn (p : Poller) :
    (s.turn milestones p).sent =
      s.sent ++ milestones.filterMap Milestone.accepted? ++ s.outbox.taken p.outbox := by
  have hall (l : List Status) : (l.map Milestone.accepted).filterMap Milestone.accepted? = l := by
    induction l with
    | nil => rfl
    | cons status l ih => simp [Milestone.accepted?, ih]
  simp [sent, turn, hall]

/-- The report that a poll would get. -/
def report? (stamp : Timestamp) (s : Scene) : Option Status :=
  match s.relay.ask? with
  | some (.ok report, _) => some (.ofReport stamp report)
  | _ => none

theorem lastSent_step (h : Step s t) (hs : s.poller.lastSent = s.sent.getLast?) :
    t.poller.lastSent = t.sent.getLast? := by
  cases h with
  | connect => simpa [s.relay.aloof_connectMilestones.accepted] using hs
  | recordSuccess => simpa [Milestone.accepted?] using hs
  | recordFailure e => simpa [Milestone.accepted?] using hs
  | beginAttempt now =>
    have hsent : (s.beginAttempt now).sent = s.sent := by
      simp [beginAttempt, fallAsleep, sent, (s.relay.aloof_onsetMilestones now).accepted]
    rw [hsent]
    exact hs
  | wake h =>
    have hsent : s.wake.sent = s.sent := by
      simp [wake, sent, s.relay.aloof_wakeMilestones.accepted]
    rw [hsent]
    exact hs
  | emit status =>
    rw [sent_turn]
    obtain ⟨-, -, hlast, htaken⟩ | ⟨-, -, hlast, houtbox⟩ := s.poller.emit_cases status
    · have htaken' : s.outbox.taken (s.poller.emit status).2.outbox = [status] := htaken
      simp [turn, hlast, htaken']
    · simpa [turn, hlast, houtbox, Queue.taken, outbox] using hs
  | take =>
    obtain ⟨status, q, heq⟩ | ⟨q, heq⟩ := s.take_cases <;> rw [heq] <;>
      simpa [hand, sent, Milestone.accepted?] using hs
  | finish | leave | retire => simpa [finish, hand, sent] using hs
  | remark | closeSession | ask | sever | setReachable | setFiles | signal => simpa using hs

theorem lastSent_run (hs : s.poller.lastSent = s.sent.getLast?) (actions : List Action) :
    (s.run actions).poller.lastSent = (s.run actions).sent.getLast? :=
  (steps_run s actions).keep lastSent_step hs

theorem report?_eq_some {status : Status} (h : s.report? stamp = some status) :
    ∃ report r, s.relay.ask? = some (.ok report, r) ∧ status = .ofReport stamp report := by
  rw [report?] at h
  split at h
  · next report r heq => exact ⟨report, r, heq, (Option.some.inj h).symm⟩
  · cases h

/-- A poll that gets no report says so. -/
theorem exists_report?_of_poll (hconnected : (s.poller.poll now stamp).1 ≠ .notConnected)
    (hanswered : (s.poller.poll now stamp).1 ≠ .callFailed) :
    ∃ status, s.report? stamp = some status := by
  rcases hask : s.relay.ask? with _ | ⟨e | report, r⟩
  all_goals have hask' : s.poller.relay.ask? = _ := hask
  · refine absurd ?_ hconnected
    simp [Poller.poll, Poller.beginPoll_eq, hask']
  · refine absurd ?_ hanswered
    simp only [Poller.poll, Poller.beginPoll_eq, hask']
    rcases r.beginFailure now e with ⟨_ | delay, r'⟩ <;> rfl
  · exact ⟨.ofReport stamp report, by rw [report?, hask]⟩

/-- A poll that gets a report passes it on, if there is news in it. -/
theorem poll_of_report?_eq_some {status : Status} (h : s.report? stamp = some status) :
    ∃ r, s.poller.poll now stamp =
      if Status.shouldEmit s.poller.lastSent status then { s.poller with relay := r }.emit status
      else (.unchanged, { s.poller with relay := r }) := by
  obtain ⟨report, r, hask, rfl⟩ := report?_eq_some h
  have hask' : s.poller.relay.ask? = _ := hask
  refine ⟨r.recordSuccess, ?_⟩
  rw [Poller.poll, Poller.beginPoll_eq, hask']
  rfl

/-- What a poll came to, for each report: it is held back, taken or dropped. -/
inductive Verdict (s : Scene) (status : Status) (outcome : PollOutcome) (p : Poller) : Prop where
  | held (known : Status.shouldEmit s.poller.lastSent status = false)
      (outcome_eq : outcome = .unchanged) (lastSent : p.lastSent = s.poller.lastSent)
      (outbox : p.outbox = s.outbox)
  | taken (news : Status.shouldEmit s.poller.lastSent status = true)
      (room : (s.outbox.send status).1 = .accepted) (outcome_eq : outcome = .emitted)
      (lastSent : p.lastSent = some status)
  | lost (news : Status.shouldEmit s.poller.lastSent status = true)
      (refused : (s.outbox.send status).1 ≠ .accepted) (outcome_eq : outcome = .dropped)
      (lastSent : p.lastSent = s.poller.lastSent) (outbox : p.outbox = s.outbox)

theorem verdict_poll {status : Status} (h : s.report? stamp = some status) (now : Nat) :
    Verdict s status (s.poller.poll now stamp).1 (s.poller.poll now stamp).2 := by
  obtain ⟨r, heq⟩ := @poll_of_report?_eq_some s now stamp status h
  rw [heq]
  cases hnews : Status.shouldEmit s.poller.lastSent status with
  | false => exact .held hnews rfl rfl rfl
  | true =>
    obtain ⟨hroom, houtcome, hlast, -⟩ | ⟨hrefused, houtcome, hlast, houtbox⟩ :=
      Poller.emit_cases { s.poller with relay := r } status
    · exact .taken hnews hroom houtcome hlast
    · exact .lost hnews hrefused houtcome hlast houtbox

theorem poller_perform_poll (h : s.outbox.senderOpen = true) :
    (s.perform (.poll now stamp)).poller = (s.poller.poll now stamp).2 := by
  simp [perform, work, h, turn]

/-- A poll that leaves the queue alone leaves what was taken. -/
theorem sent_perform_poll {status : Status} (h : s.report? stamp = some status)
    (houtbox : (s.poller.poll now stamp).2.outbox = s.outbox) :
    (s.perform (.poll now stamp)).sent = s.sent := by
  simp only [perform, work]
  split
  · obtain ⟨report, r, hask, -⟩ := report?_eq_some h
    have hmilestones : s.relay.askMilestones (Relay.attemptMilestones now) = [.succeeded] := by
      simp [Relay.askMilestones, hask]
    rw [sent_turn, hmilestones, houtbox]
    simp [Queue.taken, Milestone.accepted?]
  · rfl

theorem poll_eq_unchanged_iff (hlast : s.poller.lastSent = s.sent.getLast?) :
    (s.poller.poll now stamp).1 = .unchanged ↔
      ∃ status last, s.report? stamp = some status ∧ s.sent.getLast? = some last ∧
        status.events = [] ∧ last.facts = status.facts := by
  constructor
  · intro houtcome
    obtain ⟨status, h⟩ := @exists_report?_of_poll s now stamp (by simp [houtcome])
      (by simp [houtcome])
    cases verdict_poll h now with
    | held known outcome_eq lastSent outbox =>
      obtain ⟨last, hsent, hevents, hfacts⟩ := (Status.shouldEmit_eq_false_iff _ _).1 known
      exact ⟨status, last, h, hlast ▸ hsent, hevents, hfacts⟩
    | taken news room outcome_eq lastSent => simp [houtcome] at outcome_eq
    | lost news refused outcome_eq lastSent outbox => simp [houtcome] at outcome_eq
  · rintro ⟨status, last, h, hsent, hevents, hfacts⟩
    have hknown : Status.shouldEmit s.poller.lastSent status = false :=
      (Status.shouldEmit_eq_false_iff _ _).2 ⟨last, hlast.trans hsent, hevents, hfacts⟩
    cases verdict_poll h now with
    | held known outcome_eq lastSent outbox => exact outcome_eq
    | taken news room outcome_eq lastSent => simp [hknown] at news
    | lost news refused outcome_eq lastSent outbox => simp [hknown] at news

/-- A report whose conditions are not those of the last one taken is offered to the queue. -/
theorem poll_of_news (hlast : s.poller.lastSent = s.sent.getLast?) {status : Status}
    (h : s.report? stamp = some status)
    (hnews : s.sent.getLast?.map Status.facts ≠ some status.facts) :
    (s.poller.poll now stamp).1 =
      if (s.outbox.send status).1 = .accepted then .emitted else .dropped := by
  cases verdict_poll h now with
  | held known outcome_eq lastSent outbox =>
    obtain ⟨last, hsent, -, hfacts⟩ := (Status.shouldEmit_eq_false_iff _ _).1 known
    rw [← hlast, hsent] at hnews
    exact absurd (congrArg some hfacts) hnews
  | taken news room outcome_eq lastSent => rw [outcome_eq, if_pos room]
  | lost news refused outcome_eq lastSent outbox => rw [outcome_eq, if_neg refused]

/-- After a poll that was held back or taken, the last report taken says what the plugin said. -/
theorem lastSent_of_settled
    (houtcome : (s.poller.poll now stamp).1 = .unchanged ∨
      (s.poller.poll now stamp).1 = .emitted) :
    ∃ status last, s.report? stamp = some status ∧
      (s.poller.poll now stamp).2.lastSent = some last ∧ last.facts = status.facts := by
  obtain ⟨status, h⟩ : ∃ status, s.report? stamp = some status := by
    apply @exists_report?_of_poll s now stamp
    · rcases houtcome with h | h <;> simp [h]
    · rcases houtcome with h | h <;> simp [h]
  cases verdict_poll h now with
  | held known outcome_eq lastSent outbox =>
    obtain ⟨last, hsent, -, hfacts⟩ := (Status.shouldEmit_eq_false_iff _ _).1 known
    exact ⟨status, last, h, lastSent.trans hsent, hfacts⟩
  | taken news room outcome_eq lastSent => exact ⟨status, status, h, lastSent, rfl⟩
  | lost news refused outcome_eq lastSent outbox => simp [outcome_eq] at houtcome

/-- A poll that drops its report changes nothing about what was taken. -/
theorem sent_of_dropped (houtcome : (s.poller.poll now stamp).1 = .dropped) :
    ∃ status, s.report? stamp = some status ∧ (s.perform (.poll now stamp)).sent = s.sent := by
  obtain ⟨status, h⟩ := @exists_report?_of_poll s now stamp (by simp [houtcome])
    (by simp [houtcome])
  refine ⟨status, h, sent_perform_poll h ?_⟩
  cases verdict_poll h now with
  | held known outcome_eq lastSent outbox => exact outbox
  | taken news room outcome_eq lastSent => simp [houtcome] at outcome_eq
  | lost news refused outcome_eq lastSent outbox => exact outbox

end Scene

/-- Whatever is done in whatever order, what a poller measures change against is the last report
that the queue took. So a poll finds nothing new just when its report has no events and repeats the
conditions of that one. After a poll that was not dropped, made before the poller comes to its end,
the last report taken says what the plugin says; and a change that was dropped is offered again by
a later poll that finds it, if nothing was taken in between. -/
theorem reference_is_last_taken (b : Beginning) (actions : List Action) :
    let s := b.scene.run actions
    s.poller.lastSent = s.sent.getLast? ∧
    ∀ now stamp,
      let outcome := (s.poller.poll now stamp).1
      let next := s.perform (.poll now stamp)
      (outcome = .unchanged ↔ ∃ status last, s.report? stamp = some status ∧
        s.sent.getLast? = some last ∧ status.events = [] ∧ last.facts = status.facts) ∧
      (s.outbox.senderOpen = true → outcome = .unchanged ∨ outcome = .emitted →
        ∃ status last, s.report? stamp = some status ∧ next.sent.getLast? = some last ∧
          last.facts = status.facts) ∧
      (outcome = .dropped → ∃ status, s.report? stamp = some status ∧ next.sent = s.sent ∧
        (s.sent.getLast?.map Status.facts ≠ some status.facts →
          ∀ later now' stamp' status',
            let t := next.run later
            t.sent = s.sent → t.report? stamp' = some status' → status'.facts = status.facts →
              (t.poller.poll now' stamp').1 =
                if (t.outbox.send status').1 = .accepted then .emitted else .dropped)) := by
  intro s
  have hlast : s.poller.lastSent = s.sent.getLast? := Scene.lastSent_run rfl actions
  refine ⟨hlast, ?_⟩
  intro now stamp outcome next
  refine ⟨Scene.poll_eq_unchanged_iff hlast, ?_, ?_⟩
  · intro hopen houtcome
    have hnext : next.poller.lastSent = next.sent.getLast? :=
      Scene.lastSent_run hlast [.poll now stamp]
    rw [← hnext, Scene.poller_perform_poll hopen]
    exact Scene.lastSent_of_settled houtcome
  · intro houtcome
    obtain ⟨status, h, hsent⟩ := Scene.sent_of_dropped houtcome
    refine ⟨status, h, hsent, ?_⟩
    intro hnews later now' stamp' status' t hsame h' hfacts
    have ht : t.poller.lastSent = t.sent.getLast? :=
      Scene.lastSent_run hlast (.poll now stamp :: later)
    apply Scene.poll_of_news ht h'
    rwa [hsame, hfacts]

end HealthRelay
