import HealthRelay.Proofs.Scene

/-!
The atomic steps of a scene, and how every action is made of them. A property that each step keeps
is kept by every run.
-/
namespace HealthRelay

namespace Scene

/-- The host takes a report, if one waits. -/
def take (s : Scene) : Scene :=
  match s.outbox.take with
  | (.item status, q) => s.hand [.received status] q
  | (_, q) => s.hand [] q

theorem take_cases (s : Scene) :
    (∃ status q, take s = s.hand [.received status] q) ∨ ∃ q, take s = s.hand [] q := by
  rw [take]
  split
  · exact .inl ⟨_, _, rfl⟩
  · exact .inr ⟨_, rfl⟩

/-- One step that nothing interrupts. -/
inductive Step (s : Scene) : Scene → Prop where
  | remark (level : Level) (text : String) (fields : List (String × String)) :
    Step s (s.note [] (s.relay.remark level text fields))
  | connect : Step s (s.note s.relay.connectMilestones s.relay.connect.2)
  | closeSession : Step s (s.note [] s.relay.closeSession)
  | recordSuccess : Step s (s.note [.succeeded] s.relay.recordSuccess)
  | recordFailure (e : CallError) : Step s (s.note [.failed e] (s.relay.recordFailure e).2)
  | beginAttempt (now : Nat) : Step s (s.beginAttempt now)
  | wake (h : 0 < s.asleep) : Step s s.wake
  | finish (h : 0 < s.ending) : Step s s.finish
  | ask {answer : Except CallError Plugin.Report} {r : Relay}
    (h : s.relay.ask? = some (answer, r)) : Step s (s.note [] r)
  | emit (status : Status) : Step s (s.turn [] (s.poller.emit status).2)
  | sever : Step s (s.note [] { s.relay with link := s.relay.link.sever })
  | setReachable (reachable : Bool) :
    Step s (s.note [] { s.relay with link := s.relay.link.setReachable reachable })
  | setFiles (files : FileTree) :
    Step s (s.note [] { s.relay with link := s.relay.link.updateFiles fun _ => files })
  | signal : Step s (s.note [] { s.relay with stopping := true })
  | take : Step s (Scene.take s)
  | leave : Step s (s.hand [] s.outbox.closeReceiver)
  | retire : Step s (s.hand [] s.outbox.closeSender)

/-- Any number of steps. -/
abbrev Steps : Scene → Scene → Prop := Relation.ReflTransGen Step

end Scene

variable {s t : Scene} {r : Relay} {p : Poller} {now : Nat} {stamp : Timestamp} {e : CallError}
  {milestones more : List Milestone}

namespace Scene

@[simp] theorem note_relay : (s.note milestones r).relay = r := rfl

@[simp] theorem note_outbox : (s.note milestones r).outbox = s.outbox := rfl

@[simp] theorem note_poller :
    (s.note milestones r).poller = { s.poller with relay := r } := rfl

@[simp] theorem note_history :
    (s.note milestones r).history = s.history ++ milestones := rfl

@[simp] theorem note_asleep : (s.note milestones r).asleep = s.asleep := rfl

@[simp] theorem note_ending : (s.note milestones r).ending = s.ending := rfl

@[simp] theorem note_note {r' : Relay} :
    (s.note milestones r).note more r' = s.note (milestones ++ more) r' := by
  simp [note]

@[simp] theorem note_turn : (s.note milestones r).turn more p = s.turn (milestones ++ more) p := by
  simp [note, turn, outbox]

@[simp] theorem fallAsleep_relay {delay : Option Duration} :
    (s.fallAsleep delay).relay = s.relay := rfl

@[simp] theorem fallAsleep_history {delay : Option Duration} :
    (s.fallAsleep delay).history = s.history := rfl

@[simp] theorem fallAsleep_none : s.fallAsleep none = s := rfl

/-- A turn in which the queue stays as it was is a note. -/
theorem turn_eq_note : s.turn milestones { s.poller with relay := r } = s.note milestones r := by
  simp [turn, note, outbox, Queue.taken]

end Scene

/-- A poll, by the answer to it. -/
theorem Poller.beginPoll_eq (p : Poller) :
    p.beginPoll now stamp =
      match p.relay.ask? with
      | none =>
        (.notConnected, none,
          { p with relay := p.relay.remark .debug "Skipping poll, not connected" [] })
      | some (.ok report, r) =>
        (({ p with relay := r }.accept stamp report).1, none,
          ({ p with relay := r }.accept stamp report).2)
      | some (.error e, r) =>
        (.callFailed, (r.beginFailure now e).1, { p with relay := (r.beginFailure now e).2 }) := by
  cases h : p.relay.liveSession? with
  | none => simp [beginPoll, Relay.ask?, h]
  | some session =>
    simp only [beginPoll, Relay.ask?, h, Option.map_some]
    generalize p.relay.advanceSequence.link.checkHealth session _ _ = reply
    obtain ⟨e | report, link⟩ := reply <;> rfl

theorem Poller.poll_eq (p : Poller) :
    (p.poll now stamp).2 =
      match p.relay.ask? with
      | some (.error e, r) => { p with relay := r.handleFailure now e }
      | _ => (p.beginPoll now stamp).2.2 := by
  rw [Poller.poll, Poller.beginPoll_eq]
  rcases p.relay.ask? with _ | ⟨e | report, r⟩
  · rfl
  · simp only [Relay.handleFailure]
    rcases r.beginFailure now e with ⟨_ | delay, r'⟩ <;> rfl
  · rfl

/-- A failed call, by whether it leads to an attempt. -/
theorem Relay.handleFailure_eq :
    r.handleFailure now e =
      match r.recordFailure e with
      | (false, r) => r
      | (true, r) => (r.attemptReconnection now).2 := by
  simp only [Relay.handleFailure, Relay.beginFailure, Relay.attemptReconnection]
  rcases r.recordFailure e with ⟨_ | _, r⟩
  · rfl
  · rcases h : r.beginAttempt now with ⟨outcome | delay, r'⟩ <;> simp [h]

namespace Scene

/-- A whole attempt begins, and if it is not refused it is made and ends. -/
theorem steps_attempt (s : Scene) (now : Nat) :
    Steps s (s.note (s.relay.attemptMilestones now) (s.relay.attemptReconnection now).2) := by
  have hbegin : Steps s (s.beginAttempt now) :=
    Relation.ReflTransGen.single (.beginAttempt now)
  rcases h : s.relay.beginAttempt now with ⟨outcome | delay, r⟩
  · simpa [beginAttempt, Relay.attemptMilestones, Relay.attemptReconnection, h] using hbegin
  · have hwake : Step (s.beginAttempt now) (s.beginAttempt now).wake :=
      .wake (by simp [beginAttempt, h, fallAsleep])
    have hfinish : Step (s.beginAttempt now).wake (s.beginAttempt now).wake.finish :=
      .finish (by simp [wake])
    have heq : (s.beginAttempt now).wake.finish =
        s.note (s.relay.attemptMilestones now) (s.relay.attemptReconnection now).2 := by
      simp [beginAttempt, wake, finish, fallAsleep, note, relay, Relay.attemptMilestones,
        Relay.attemptReconnection, Relay.finishAttempt,
        show s.poller.relay.beginAttempt now = _ from h]
    exact heq ▸ (hbegin.tail hwake).tail hfinish

/-- A failed call, given how an attempt goes that it may lead to. -/
theorem steps_failure {attempt : Relay → List Milestone} {after : Relay → Relay}
    (hattempt : ∀ u : Scene, Steps u (u.note (attempt u.relay) (after u.relay))) :
    Steps s (s.note (s.relay.failureMilestones attempt e)
      (match s.relay.recordFailure e with
        | (false, r) => r
        | (true, r) => after r)) := by
  have hrecord : Steps s (s.note [.failed e] (s.relay.recordFailure e).2) :=
    Relation.ReflTransGen.single (.recordFailure e)
  rcases h : s.relay.recordFailure e with ⟨_ | _, r⟩
  · simpa [Relay.failureMilestones, h] using hrecord
  · have hnext := hattempt (s.note [.failed e] (s.relay.recordFailure e).2)
    simpa [Relay.failureMilestones, h] using hrecord.trans hnext

theorem steps_fail (s : Scene) (now : Nat) (e : CallError) :
    Steps s (s.note (s.relay.failureMilestones (Relay.attemptMilestones now) e)
      (s.relay.handleFailure now e)) :=
  Relay.handleFailure_eq ▸ steps_failure fun u => steps_attempt u now

/-- A failed call whose attempt, if it leads to one, is left in its delay. -/
theorem steps_beginFail (s : Scene) (now : Nat) (e : CallError) :
    Steps s ((s.note (s.relay.failureMilestones (Relay.onsetMilestones now) e)
      (s.relay.beginFailure now e).2).fallAsleep (s.relay.beginFailure now e).1) := by
  have hrecord : Steps s (s.note [.failed e] (s.relay.recordFailure e).2) :=
    Relation.ReflTransGen.single (.recordFailure e)
  rcases h : s.relay.recordFailure e with ⟨_ | _, r⟩
  · simpa [Relay.failureMilestones, Relay.beginFailure, h] using hrecord
  · have hbegin := hrecord.tail (.beginAttempt now)
    rcases h' : r.beginAttempt now with ⟨outcome | delay, r'⟩ <;>
      simpa [Relay.failureMilestones, Relay.beginFailure, beginAttempt, h, h'] using hbegin

/-- Passing on a report, or not. -/
theorem steps_accept (s : Scene) (stamp : Timestamp) (report : Plugin.Report) :
    Steps s (s.turn [.succeeded] (s.poller.accept stamp report).2) := by
  have hrecord : Steps s (s.note [.succeeded] s.relay.recordSuccess) :=
    Relation.ReflTransGen.single .recordSuccess
  by_cases h : Status.shouldEmit s.poller.lastSent (.ofReport stamp report) = true
  · have hemit := hrecord.tail (.emit (.ofReport stamp report))
    simpa [Poller.accept, h, relay] using hemit
  · have heq : (s.poller.accept stamp report).2 =
        { s.poller with relay := s.relay.recordSuccess } := by
      simp [Poller.accept, h, relay]
    rw [heq, turn_eq_note]
    exact hrecord

/-- A poll whose attempt, if it leads to one, is left in its delay. -/
theorem steps_beginPoll (s : Scene) (now : Nat) (stamp : Timestamp) :
    Steps s ((s.turn (s.relay.askMilestones (Relay.onsetMilestones now))
      (s.poller.beginPoll now stamp).2.2).fallAsleep (s.poller.beginPoll now stamp).2.1) := by
  rw [Poller.beginPoll_eq]
  rcases h : s.relay.ask? with _ | ⟨e | report, r⟩
  all_goals have h' : s.poller.relay.ask? = _ := h
  · simp only [Relay.askMilestones, h, h', turn_eq_note]
    exact Relation.ReflTransGen.single (.remark .debug "Skipping poll, not connected" [])
  · have hask : Steps s (s.note [] r) := Relation.ReflTransGen.single (.ask h)
    simp only [Relay.askMilestones, h, h', turn_eq_note]
    simpa using hask.trans (steps_beginFail _ now e)
  · have hask : Steps s (s.note [] r) := Relation.ReflTransGen.single (.ask h)
    simp only [Relay.askMilestones, h, h']
    simpa using hask.trans (steps_accept _ stamp report)

theorem steps_poll (s : Scene) (now : Nat) (stamp : Timestamp) :
    Steps s (s.turn (s.relay.askMilestones (Relay.attemptMilestones now))
      (s.poller.poll now stamp).2) := by
  have hbegin := steps_beginPoll s now stamp
  rcases h : s.relay.ask? with _ | ⟨e | report, r⟩
  all_goals have h' : s.poller.relay.ask? = _ := h
  · simpa [Poller.poll_eq, Poller.beginPoll_eq, Relay.askMilestones, h, h'] using hbegin
  · have hask : Steps s (s.note [] r) := Relation.ReflTransGen.single (.ask h)
    simp only [Poller.poll_eq, Relay.askMilestones, h, h', turn_eq_note]
    simpa using hask.trans (steps_fail _ now e)
  · simpa [Poller.poll_eq, Poller.beginPoll_eq, Relay.askMilestones, h, h'] using hbegin

theorem steps_sendInitial (s : Scene) (stamp : Timestamp) :
    Steps s (s.turn [] (s.poller.sendInitial stamp)) := by
  by_cases h : s.relay.settings.conditions.isEmpty = true
  · have heq : s.poller.sendInitial stamp = { s.poller with relay := s.relay } := by
      simp [Poller.sendInitial, show s.poller.relay.settings.conditions.isEmpty = _ from h, relay]
    rw [heq, turn_eq_note]
    simpa [note, relay] using Relation.ReflTransGen.refl
  · have hremark : Steps s (s.note [] _) := Relation.ReflTransGen.single (.remark .info
      "Sending initial status" [("conditions", toString s.relay.settings.conditions.length)])
    have hemit := hremark.tail (.emit (.initial s.relay.name s.relay.settings.conditions stamp))
    rw [note_turn] at hemit
    rwa [Poller.sendInitial, if_neg (by exact h)]

theorem steps_take (s : Scene) : Steps s (take s) := Relation.ReflTransGen.single .take

/-- Every action is made of steps. -/
theorem steps_perform (s : Scene) (a : Action) : Steps s (s.perform a) := by
  have hwork (f : Scene → Scene) (hf : Steps s (f s)) : Steps s (s.work f) := by
    unfold work
    split
    · exact hf
    · exact .refl
  cases a with
  | connect => exact Relation.ReflTransGen.single .connect
  | attempt now => exact steps_attempt s now
  | fail now e => exact steps_fail s now e
  | succeed => exact Relation.ReflTransGen.single .recordSuccess
  | closeSession => exact Relation.ReflTransGen.single .closeSession
  | sendInitial stamp =>
    apply hwork
    exact steps_sendInitial s stamp
  | poll now stamp =>
    apply hwork
    exact steps_poll s now stamp
  | beginAttempt now => exact Relation.ReflTransGen.single (.beginAttempt now)
  | beginFail now e => exact steps_beginFail s now e
  | beginPoll now stamp =>
    apply hwork
    exact steps_beginPoll s now stamp
  | wake =>
    by_cases h : 0 < s.asleep
    · simpa [perform, h] using Relation.ReflTransGen.single (.wake h)
    · simpa [perform, h] using Relation.ReflTransGen.refl
  | finish =>
    by_cases h : 0 < s.ending
    · simpa [perform, h] using Relation.ReflTransGen.single (.finish h)
    · simpa [perform, h] using Relation.ReflTransGen.refl
  | sever => exact Relation.ReflTransGen.single .sever
  | setReachable reachable => exact Relation.ReflTransGen.single (.setReachable reachable)
  | setFiles files => exact Relation.ReflTransGen.single (.setFiles files)
  | signal => exact Relation.ReflTransGen.single .signal
  | tryRecv =>
    have htake := steps_take s
    rcases h : s.outbox.take with ⟨status | _ | _, q⟩ <;>
      simpa [perform, Stream.tryRecv, take, h] using htake
  | recvTimeout limit =>
    have htake := steps_take s
    rcases h : s.outbox.take with ⟨status | _ | _, q⟩ <;>
      simpa [perform, Stream.recvTimeout, take, h] using htake
  | recv =>
    have htake := steps_take s
    rcases h : s.outbox.take with ⟨status | _ | _, q⟩
    · simpa [perform, Stream.recv?, take, h] using htake
    · simpa [perform, Stream.recv?, h] using Relation.ReflTransGen.refl
    · simpa [perform, Stream.recv?, take, h] using htake
  | leave => exact Relation.ReflTransGen.single .leave
  | retire => exact Relation.ReflTransGen.single .retire

/-- Every run is made of steps. -/
theorem steps_run (s : Scene) (actions : List Action) : Steps s (s.run actions) := by
  induction actions generalizing s with
  | nil => exact .refl
  | cons a actions ih => exact (steps_perform s a).trans (ih (s.perform a))

/-- What every step keeps, every sequence of steps keeps. -/
theorem Steps.keep {I : Scene → Prop} (hstep : ∀ {u v : Scene}, Step u v → I u → I v)
    (h : Steps s t) (hs : I s) : I t := by
  induction h with
  | refl => exact hs
  | tail _ huv ih => exact hstep huv ih

end Scene

end HealthRelay
