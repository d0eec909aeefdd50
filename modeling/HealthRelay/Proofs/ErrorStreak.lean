import HealthRelay.Monitor
import HealthRelay.Proofs.Effect

/-!
Failures in a row: how many there have been, when they lead to an attempt to connect again, and
which of them take the connection down.
-/
namespace HealthRelay

variable {s t : Scene} {r : Relay} {now : Nat} {stamp : Timestamp} {e : CallError}
  {history : List Milestone} {p : Milestone → Bool}

namespace Milestone

/-- A session was opened. -/
def isOpening : Milestone → Bool
  | .connected | .reconnected => true
  | _ => false

/-- A run of failures is over. -/
def endsStreak : Milestone → Bool
  | .connected | .reconnected | .succeeded => true
  | _ => false

/-- A call failed, and not because the plugin does not offer it. -/
def isCounted : Milestone → Bool
  | .failed e => e.code ≠ .unimplemented
  | _ => false

/-- A call failed because the plugin could not be reached. -/
def isLoss : Milestone → Bool
  | .failed e => e.code = .unavailable ∨ e.code = .deadlineExceeded
  | _ => false

end Milestone

/-- What has happened after the last milestone of a kind, the latest first. -/
def since (p : Milestone → Bool) (history : List Milestone) : List Milestone :=
  history.reverse.takeWhile fun m => !p m

/-- The counted failures since a call last succeeded or a session was opened. -/
def streak (history : List Milestone) : Nat :=
  (since Milestone.endsStreak history).countP Milestone.isCounted

/-- A call has failed because the plugin could not be reached, and no session was opened since. -/
def isLost (history : List Milestone) : Bool :=
  (since Milestone.isOpening history).any Milestone.isLoss

theorem since_concat (history : List Milestone) (m : Milestone) :
    since p (history ++ [m]) = if p m then [] else m :: since p history := by
  cases h : p m <;> simp [since, h]

theorem streak_concat (history : List Milestone) (m : Milestone) :
    streak (history ++ [m]) =
      if m.endsStreak then 0 else streak history + if m.isCounted then 1 else 0 := by
  rw [streak, since_concat]
  split
  · rfl
  · rw [List.countP_cons, ← streak]

theorem isLost_concat (history : List Milestone) (m : Milestone) :
    isLost (history ++ [m]) = (!m.isOpening && (m.isLoss || isLost history)) := by
  rw [isLost, since_concat]
  cases m.isOpening <;> rfl

/-- What does not concern the connection leaves both accounts. -/
theorem accounts_append {gained : List Milestone}
    (h : ∀ m ∈ gained, m.concernsConnection = false) :
    streak (history ++ gained) = streak history ∧ isLost (history ++ gained) = isLost history := by
  induction gained generalizing history with
  | nil => simp
  | cons m gained ih =>
    obtain ⟨hstreak, hlost⟩ := @ih (history ++ [m]) fun m hm => h m (List.mem_cons_of_mem _ hm)
    have hm : m.concernsConnection = false := h m List.mem_cons_self
    rw [List.append_cons, hstreak, hlost, streak_concat, isLost_concat]
    cases m <;> simp_all [Milestone.concernsConnection, Milestone.endsStreak,
      Milestone.isCounted, Milestone.isOpening, Milestone.isLoss]

/-- What is lost was lost before, or by one of the failures since. -/
theorem exists_loss {gained : List Milestone} (hbefore : isLost history = false)
    (hafter : isLost (history ++ gained) = true) : ∃ m ∈ gained, m.isLoss = true := by
  induction gained generalizing history with
  | nil =>
    rw [List.append_nil, hbefore] at hafter
    cases hafter
  | cons m gained ih =>
    by_cases hm : m.isLoss = true
    · exact ⟨m, List.mem_cons_self, hm⟩
    · have hstill : isLost (history ++ [m]) = false := by
        rw [isLost_concat, hbefore]
        simp [hm]
      rw [List.append_cons] at hafter
      obtain ⟨m', hmem, hloss⟩ := ih hstill hafter
      exact ⟨m', List.mem_cons_of_mem _ hmem, hloss⟩

namespace Relay

theorem recordFailure_fst :
    (r.recordFailure e).1 = decide (e.code ≠ .unimplemented ∧
      r.settings.errorThreshold ≤ min (r.connection.errors + 1) Connection.maxErrors) := by
  obtain ⟨journal, heq⟩ := r.remarkFailure_eq e
  have hcounts : e.triage.counts = decide (e.code ≠ .unimplemented) := e.code.counts_triage
  rw [recordFailure, heq, hcounts]
  by_cases hcode : e.code = .unimplemented
  · simp [hcode]
  · by_cases hmany :
      r.settings.errorThreshold ≤ min (r.connection.errors + 1) Connection.maxErrors <;>
    simp [hcode, hmany, Connection.countError]

/-- A call that the plugin does not offer is only remarked on. -/
theorem recordFailure_unsupported (h : e.code = .unimplemented) :
    r.recordFailure e = (false, r.remarkFailure e) := by
  have hcounts : e.triage.counts = false := by
    rw [CallError.triage, h]
    rfl
  simp [recordFailure, hcounts]

theorem failureMilestones_unsupported {attempt : Relay → List Milestone}
    (h : e.code = .unimplemented) : r.failureMilestones attempt e = [.failed e] := by
  rw [failureMilestones, recordFailure_unsupported h]

theorem beginFailure_unsupported (h : e.code = .unimplemented) :
    r.beginFailure now e = (none, r.remarkFailure e) := by
  rw [beginFailure, recordFailure_unsupported h]

theorem handleFailure_unsupported (h : e.code = .unimplemented) :
    r.handleFailure now e = r.remarkFailure e := by
  rw [handleFailure, beginFailure_unsupported h]

theorem ask?_connection {answer : Except CallError Plugin.Report} {r' : Relay}
    (h : r.ask? = some (answer, r')) : r'.connection = r.connection := by
  obtain ⟨session, link, -, -, rfl⟩ := ask?_eq_some h
  rfl

@[simp] theorem remarkFailure_connection : (r.remarkFailure e).connection = r.connection := by
  obtain ⟨journal, heq⟩ := r.remarkFailure_eq e
  rw [heq]

/-- Nobody says who is at the other end, for whatever reason. -/
theorem identify_connection_of_error {id : Nat} (h : (r.link.getMetadata id).1 = .error e) :
    (r.identify id).connection = r.connection := by
  rw [identify]
  simp only [h]
  split <;> rfl

end Relay

/-- A poll that fails is handled like any failed call. -/
theorem Poller.relay_of_ask?_eq_error {p : Poller} (h : p.relay.ask? = some (.error e, r))
    (now : Nat) (stamp : Timestamp) :
    (p.poll now stamp).2.relay = r.handleFailure now e ∧
      (p.beginPoll now stamp).2.2.relay = (r.beginFailure now e).2 := by
  rw [poll_eq, beginPoll_eq, h]
  exact ⟨rfl, rfl⟩

/-- Telling the plugin to stop is a call through the link, and may be remarked on. -/
theorem Monitor.notify_relay (m : Monitor) :
    ∃ link journal, m.notify.relay = { m.relay with link := link, journal := journal } := by
  simp only [notify, updateRelay, relay]
  split
  · exact ⟨_, _, rfl⟩
  · split <;> exact ⟨_, _, rfl⟩

/-- What comes of it does not concern the connection. -/
theorem Monitor.notify_connection (m : Monitor) :
    m.notify.relay.connection = m.relay.connection := by
  obtain ⟨link, journal, heq⟩ := m.notify_relay
  rw [heq]

namespace Scene

/-- The count of failures, and whether the plugin is taken to be reachable, as the history has
them. -/
structure Accounted (s : Scene) : Prop where
  errors : s.relay.connection.errors = min (streak s.history) Connection.maxErrors
  connected : s.relay.connection.connected =
    (s.relay.connection.session.isSome && !isLost s.history)

theorem accounted_step (h : Step s t) (hs : Accounted s) : Accounted t := by
  cases effect_step h with
  | quiet milestones hhistory hneutral hsession hconnected herrors =>
    obtain ⟨hstreak, hlost⟩ := @accounts_append s.history milestones hneutral
    refine ⟨?_, ?_⟩
    · rw [herrors, hhistory, hstreak, hs.errors]
    · rw [hconnected, hsession, hhistory, hlost, hs.connected]
  | detached hhistory hconnection =>
    refine ⟨?_, ?_⟩
    · rw [hconnection, hhistory, ← hs.errors]
      rfl
    · rw [hconnection]
      rfl
  | opened milestone hopening hhistory id identity hconnection =>
    refine ⟨?_, ?_⟩ <;> rw [hconnection, hhistory]
    · rw [streak_concat]
      rcases hopening with rfl | rfl <;> rfl
    · rw [isLost_concat]
      rcases hopening with rfl | rfl <;> rfl
  | succeeded hhistory hconnection =>
    refine ⟨?_, ?_⟩ <;> rw [hconnection, hhistory]
    · rw [streak_concat]
      rfl
    · rw [isLost_concat]
      exact hs.connected
  | failed e hhistory hconnection =>
    have herrors := hs.errors
    have hconnected := hs.connected
    refine ⟨?_, ?_⟩ <;> rw [hconnection, hhistory]
    · rw [streak_concat]
      by_cases hcode : e.code = .unimplemented
      · simp [hcode, Milestone.endsStreak, Milestone.isCounted, herrors]
      · simp only [hcode, Connection.countError, Milestone.endsStreak, Milestone.isCounted,
          ne_eq, not_false_eq_true, decide_true, if_true, if_false, Bool.false_eq_true]
        omega
    · rw [isLost_concat]
      by_cases hcode : e.code = .unimplemented
      · simp [hcode, hconnected, Milestone.isOpening, Milestone.isLoss]
      · simp [hcode, hconnected, Connection.countError, Milestone.isOpening, Milestone.isLoss,
          Bool.and_assoc, Bool.and_comm]

theorem accounted_initial (b : Beginning) : Accounted b.scene := ⟨rfl, rfl⟩

theorem accounted_run (b : Beginning) (actions : List Action) :
    Accounted (b.scene.run actions) :=
  (steps_run b.scene actions).keep accounted_step (accounted_initial b)

/-- The action comes to a call that the plugin does not offer. -/
def MeetsUnsupported (s : Scene) : Action → Prop
  | .fail _ e | .beginFail _ e => e.code = .unimplemented
  | .poll _ _ | .beginPoll _ _ =>
    ∃ e r, s.relay.ask? = some (.error e, r) ∧ e.code = .unimplemented
  | _ => False

/-- Each of the actions does. -/
def AllUnsupported (s : Scene) : List Action → Prop
  | [] => True
  | a :: rest => s.MeetsUnsupported a ∧ (s.perform a).AllUnsupported rest

theorem perform_unsupported {a : Action} (h : s.MeetsUnsupported a) :
    s.perform a = s ∨ ∃ e r, e.code = .unimplemented ∧ r.connection = s.relay.connection ∧
      s.perform a = s.note [.failed e] r := by
  cases a with
  | fail now e =>
    have hcode : e.code = .unimplemented := h
    refine .inr ⟨e, s.relay.remarkFailure e, hcode, Relay.remarkFailure_connection, ?_⟩
    simp only [perform, Relay.failureMilestones_unsupported hcode,
      Relay.handleFailure_unsupported hcode]
  | beginFail now e =>
    have hcode : e.code = .unimplemented := h
    refine .inr ⟨e, s.relay.remarkFailure e, hcode, Relay.remarkFailure_connection, ?_⟩
    simp only [perform, Relay.failureMilestones_unsupported hcode,
      Relay.beginFailure_unsupported hcode, fallAsleep_none]
  | poll now stamp =>
    obtain ⟨e, r, hask, hcode⟩ := h
    have hask' : s.poller.relay.ask? = _ := hask
    by_cases hopen : s.outbox.senderOpen = true
    · refine .inr ⟨e, r.remarkFailure e, hcode, by simp [Relay.ask?_connection hask], ?_⟩
      simp only [perform, work, if_pos hopen, Poller.poll_eq, hask', Relay.askMilestones, hask,
        Relay.failureMilestones_unsupported hcode, Relay.handleFailure_unsupported hcode,
        turn_eq_note]
    · exact .inl (by simp only [perform, work, if_neg hopen])
  | beginPoll now stamp =>
    obtain ⟨e, r, hask, hcode⟩ := h
    have hask' : s.poller.relay.ask? = _ := hask
    by_cases hopen : s.outbox.senderOpen = true
    · refine .inr ⟨e, r.remarkFailure e, hcode, by simp [Relay.ask?_connection hask], ?_⟩
      simp only [perform, work, if_pos hopen, Poller.beginPoll_eq, hask', Relay.askMilestones,
        hask, Relay.failureMilestones_unsupported hcode, Relay.beginFailure_unsupported hcode,
        turn_eq_note, fallAsleep_none]
    · exact .inl (by simp only [perform, work, if_neg hopen])
  | _ => cases h

/-- However often the plugin is asked for what it does not offer, the connection stays as it is,
and nothing comes of it but failures that do not count. -/
theorem run_unsupported {actions : List Action} (h : s.AllUnsupported actions) :
    (s.run actions).relay.connection = s.relay.connection ∧
    (s.run actions).asleep = s.asleep ∧ (s.run actions).ending = s.ending ∧
    streak (s.run actions).history = streak s.history ∧
    ∃ gained, (s.run actions).history = s.history ++ gained ∧
      ∀ m ∈ gained, ∃ e, m = .failed e ∧ e.code = .unimplemented := by
  induction actions generalizing s with
  | nil => exact ⟨rfl, rfl, rfl, rfl, [], by simp [run], by simp⟩
  | cons a actions ih =>
    obtain ⟨ha, hrest⟩ := h
    obtain ⟨hconnection, hasleep, hending, hstreak, gained, hhistory, hgained⟩ := ih hrest
    have hrun : s.run (a :: actions) = (s.perform a).run actions := rfl
    rw [hrun, hconnection, hasleep, hending, hstreak, hhistory]
    obtain heq | ⟨e, r, hcode, hr, heq⟩ := perform_unsupported ha <;> rw [heq]
    · exact ⟨rfl, rfl, rfl, rfl, gained, rfl, hgained⟩
    · refine ⟨hr, rfl, rfl, ?_, .failed e :: gained, by simp, ?_⟩
      · rw [note_history, streak_concat]
        simp [Milestone.endsStreak, Milestone.isCounted, hcode]
      · intro m hm
        rcases List.mem_cons.1 hm with rfl | hm
        · exact ⟨e, rfl, hcode⟩
        · exact hgained m hm

/-- The failure counts, and with it there are as many in a row as the settings allow, or more. -/
def Forces (s : Scene) (e : CallError) : Prop :=
  e.code ≠ .unimplemented ∧
    s.relay.settings.errorThreshold ≤ min (streak (s.history ++ [.failed e])) Connection.maxErrors

instance (s : Scene) (e : CallError) : Decidable (s.Forces e) := inferInstanceAs (Decidable (_ ∧ _))

/-- The relay that the failure of a call is handled by: as it is, or as a poll leaves it that is
answered so. -/
def Meets (s : Scene) (e : CallError) (r : Relay) : Prop :=
  r = s.relay ∨ s.relay.ask? = some (.error e, r)

theorem Meets.same (h : s.Meets e r) :
    r.connection = s.relay.connection ∧ r.settings = s.relay.settings := by
  rcases h with rfl | h
  · exact ⟨rfl, rfl⟩
  · obtain ⟨session, link, -, -, rfl⟩ := Relay.ask?_eq_some h
    exact ⟨rfl, rfl⟩

theorem Accounted.forces_iff (hs : Accounted s) (hr : s.Meets e r) :
    s.Forces e ↔ (r.recordFailure e).1 = true := by
  obtain ⟨hconnection, hsettings⟩ := hr.same
  rw [Relay.recordFailure_fst, decide_eq_true_iff, Forces, hconnection, hsettings]
  apply and_congr_right
  intro hcode
  have herrors := hs.errors
  have hstreak : streak (s.history ++ [.failed e]) = streak s.history + 1 := by
    rw [streak_concat]
    simp [Milestone.endsStreak, Milestone.isCounted, hcode]
  omega

/-- Only a failure that forces it leads to an attempt to connect again. -/
theorem Accounted.handleFailure_eq (hs : Accounted s) (hr : s.Meets e r) (now : Nat) :
    r.handleFailure now e =
      if s.Forces e then ((r.recordFailure e).2.attemptReconnection now).2
      else (r.recordFailure e).2 := by
  simp only [Relay.handleFailure_eq_ite, hs.forces_iff hr]

theorem Accounted.beginFailure_snd (hs : Accounted s) (hr : s.Meets e r) (now : Nat) :
    (r.beginFailure now e).2 =
      if s.Forces e then ((r.recordFailure e).2.beginAttempt now).2
      else (r.recordFailure e).2 := by
  simp only [Relay.beginFailure_snd_eq_ite, hs.forces_iff hr]

/-- Once up, the connection comes down with its session, or by a call that does not get through. -/
theorem Accounted.exists_loss_of_down (hs : Accounted s) {actions : List Action}
    (ht : Accounted (s.run actions)) (hup : s.relay.connection.connected = true)
    (hdown : (s.run actions).relay.connection.connected = false) :
    (s.run actions).relay.connection.session = none ∨
      ∃ e, .failed e ∈ (s.run actions).history.drop s.history.length ∧
        (e.code = .unavailable ∨ e.code = .deadlineExceeded) := by
  -- A connection that is up has lost nothing yet, so the loss is among what was gained.
  obtain ⟨gained, hgained⟩ := s.history_run actions
  have hbefore : isLost s.history = false := by
    rw [hs.connected, Bool.and_eq_true, Bool.not_eq_true'] at hup
    exact hup.2
  rw [ht.connected, Bool.and_eq_false_iff, Bool.not_eq_false', ← hgained] at hdown
  rcases hdown with hnone | hlost
  · exact .inl (by simpa using hnone)
  · obtain ⟨m, hm, hloss⟩ := exists_loss hbefore hlost
    rw [← hgained, List.drop_left]
    cases m with
    | failed e => exact .inr ⟨e, hm, by simpa [Milestone.isLoss] using hloss⟩
    | _ => cases hloss

end Scene

/-- Whatever is done in whatever order, failures are counted from the last call that succeeded and
from the last session that was opened, up to the greatest count; a call that the plugin does not
offer is not counted. A failed call, a poll or another, leads to an attempt to connect again just
when it counts and the count is then at the threshold or above. Calls that the plugin does not
offer leave all of the connection, however many there are, and so does a plugin that does not say
who it is or that it has stopped. The connection is taken to be down if no session is held, or if
the plugin could not be reached since the last one was opened, and nothing else takes it down. -/
theorem streak_forces_reconnection (b : Beginning) (actions : List Action) :
    let s := b.scene.run actions
    let r := s.relay
    let c := r.connection
    c.errors = min (streak s.history) Connection.maxErrors ∧
    (∀ now e r', s.Meets e r' →
      let noted := (r'.recordFailure e).2
      noted.connection =
        (if e.code = .unimplemented then c
          else c.countError (e.code = .unavailable ∨ e.code = .deadlineExceeded)) ∧
      r'.handleFailure now e =
        (if s.Forces e then (noted.attemptReconnection now).2 else noted) ∧
      (r'.beginFailure now e).2 = if s.Forces e then (noted.beginAttempt now).2 else noted) ∧
    (∀ now stamp e r', r.ask? = some (.error e, r') →
      (s.poller.poll now stamp).2.relay = r'.handleFailure now e ∧
      (s.poller.beginPoll now stamp).2.2.relay = (r'.beginFailure now e).2) ∧
    (∀ later, s.AllUnsupported later →
      let t := s.run later
      t.relay.connection = c ∧ t.asleep = s.asleep ∧ t.ending = s.ending ∧
      streak t.history = streak s.history ∧
      ∃ gained, t.history = s.history ++ gained ∧
        ∀ m ∈ gained, ∃ e, m = .failed e ∧ e.code = .unimplemented) ∧
    (∀ (r : Relay) id e, (r.link.getMetadata id).1 = .error e →
      (r.identify id).connection = r.connection) ∧
    (∀ m : Monitor, m.notify.relay.connection = m.relay.connection) ∧
    c.connected = (c.session.isSome && !isLost s.history) ∧
    (∀ later,
      let t := s.run later
      c.connected = true → t.relay.connection.connected = false →
        t.relay.connection.session = none ∨
        ∃ e, .failed e ∈ t.history.drop s.history.length ∧
          (e.code = .unavailable ∨ e.code = .deadlineExceeded)) := by
  intro s r c
  have hs : Scene.Accounted s := Scene.accounted_run b actions
  refine ⟨hs.errors, ?_, ?_, ?_, ?_, Monitor.notify_connection, hs.connected, ?_⟩
  · intro now e r' hr noted
    refine ⟨?_, hs.handleFailure_eq hr now, hs.beginFailure_snd hr now⟩
    rw [Relay.recordFailure_connection_eq, hr.same.1]
  · intro now stamp e r' hask
    exact Poller.relay_of_ask?_eq_error hask now stamp
  · intro later h
    exact Scene.run_unsupported h
  · intro r id e h
    exact Relay.identify_connection_of_error h
  · intro later t hup hdown
    have ht : Scene.Accounted t := (Scene.steps_run s later).keep Scene.accounted_step hs
    exact hs.exists_loss_of_down ht hup hdown

end HealthRelay
