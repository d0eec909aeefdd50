import HealthRelay.Proofs.Frame

/-!
What a step means for the connection: its session, whether the plugin is taken to be reachable, and
its count of failures.
-/
namespace HealthRelay

variable {s t : Scene} {r : Relay} {now : Nat} {e : CallError}

theorem StatusCode.counts_triage (code : StatusCode) :
    code.triage.counts = decide (code ≠ .unimplemented) := by
  cases code <;> rfl

theorem StatusCode.disconnects_triage (code : StatusCode) :
    code.triage.disconnects = decide (code = .unavailable ∨ code = .deadlineExceeded) := by
  cases code <;> rfl

/-- A failed call was handled, one that succeeded was recorded, or a session was opened. -/
def Milestone.concernsConnection : Milestone → Bool
  | .connected | .reconnected | .failed _ | .succeeded => true
  | .began _ _ | .abandoned _ | .accepted _ | .received _ => false

/-- A failure touches the count, and whether the plugin is taken to be reachable, by its code. -/
theorem Relay.recordFailure_connection_eq :
    (r.recordFailure e).2.connection =
      if e.code = .unimplemented then r.connection
      else r.connection.countError (e.code = .unavailable ∨ e.code = .deadlineExceeded) := by
  have hcounts : e.triage.counts = decide (e.code ≠ .unimplemented) := e.code.counts_triage
  have hdisconnects : e.triage.disconnects =
      decide (e.code = .unavailable ∨ e.code = .deadlineExceeded) := e.code.disconnects_triage
  rw [recordFailure_connection, hcounts, hdisconnects]
  by_cases hcode : e.code = .unimplemented <;> simp [hcode]

/-- Either a session is opened, or none is held any more. -/
theorem Relay.connect_connection (r : Relay) :
    (∃ e, r.connect.1 = .error e ∧ r.connect.2.connection = r.connection.detach) ∨
    (∃ id identity, r.connect.1 = .ok () ∧
      r.connect.2.connection = { r.connection.install id with identity := identity }) := by
  obtain ⟨e, -, heq⟩ | ⟨id, link, identity, journal, -, heq⟩ := r.connect_cases
  · exact .inl ⟨e, by rw [heq], by rw [heq, closeSession_connection]⟩
  · exact .inr ⟨id, identity, by rw [heq], by rw [heq]⟩

namespace Scene

/-- What a step means for the connection. -/
inductive Effect (s t : Scene) : Prop where
  | quiet (milestones : List Milestone)
      (history : t.history = s.history ++ milestones)
      (neutral : ∀ m ∈ milestones, m.concernsConnection = false)
      (session : t.relay.connection.session = s.relay.connection.session)
      (connected : t.relay.connection.connected = s.relay.connection.connected)
      (errors : t.relay.connection.errors = s.relay.connection.errors)
  | detached
      (history : t.history = s.history)
      (connection : t.relay.connection = s.relay.connection.detach)
  | opened (milestone : Milestone)
      (opening : milestone = .connected ∨ milestone = .reconnected)
      (history : t.history = s.history ++ [milestone])
      (id : Nat) (identity : Option Identity)
      (connection : t.relay.connection =
        { s.relay.connection.install id with identity := identity })
  | succeeded
      (history : t.history = s.history ++ [.succeeded])
      (connection : t.relay.connection = s.relay.connection.countSuccess)
  | failed (e : CallError)
      (history : t.history = s.history ++ [.failed e])
      (connection : t.relay.connection =
        if e.code = .unimplemented then s.relay.connection
        else s.relay.connection.countError (e.code = .unavailable ∨ e.code = .deadlineExceeded))

/-- A step that leaves the connection and the history is quiet. -/
theorem effect_of_same (hhistory : t.history = s.history)
    (hconnection : t.relay.connection = s.relay.connection) : Effect s t := by
  refine .quiet [] ?_ (by simp) ?_ ?_ ?_
  · rw [hhistory, List.append_nil]
  all_goals rw [hconnection]

theorem effect_connect : Effect s (s.note s.relay.connectMilestones s.relay.connect.2) := by
  obtain ⟨e, hfailed, hconnection⟩ | ⟨id, identity, hopened, hconnection⟩ :=
    s.relay.connect_connection
  · refine .detached ?_ hconnection
    simp only [note_history, Relay.connectMilestones, hfailed, List.append_nil]
  · refine .opened .connected (.inl rfl) ?_ id identity hconnection
    simp only [note_history, Relay.connectMilestones, hopened]

theorem effect_wake : Effect s s.wake := by
  have hrelay : s.wake.relay = s.relay.wakeAttempt.2 := rfl
  have hhistory : s.wake.history = s.history ++ s.relay.wakeMilestones := rfl
  obtain heq | ⟨journal, heq⟩ | ⟨e, journal, herr, heq⟩ | ⟨journal, hok, heq⟩ :=
    s.relay.wakeAttempt_cases
  all_goals
    rw [heq] at hrelay
    simp only [Relay.wakeMilestones, heq, List.append_nil] at hhistory
  · exact effect_of_same hhistory (by rw [hrelay])
  · exact effect_of_same hhistory (by rw [hrelay])
  · obtain ⟨e', -, hconnection⟩ | ⟨id, identity, hopened, -⟩ := s.relay.connect_connection
    · exact .detached hhistory (by rw [hrelay, ← hconnection])
    · rw [hopened] at herr
      cases herr
  · obtain ⟨e', hfailed, -⟩ | ⟨id, identity, -, hconnection⟩ := s.relay.connect_connection
    · rw [hfailed] at hok
      cases hok
    · exact .opened .reconnected (.inr rfl) hhistory id identity (by rw [hrelay, ← hconnection])

theorem effect_beginAttempt : Effect s (s.beginAttempt now) := by
  have hrelay : (s.beginAttempt now).relay = (s.relay.beginAttempt now).2 := rfl
  have hhistory : (s.beginAttempt now).history = s.history ++ s.relay.onsetMilestones now := rfl
  obtain ⟨-, heq⟩ | ⟨-, -, heq⟩ | ⟨-, -, -, journal, heq⟩ | ⟨-, -, -, journal, heq⟩ :=
    s.relay.beginAttempt_cases now
  all_goals
    rw [heq] at hrelay
    simp only [Relay.onsetMilestones, heq, List.append_nil] at hhistory
  · exact effect_of_same hhistory (by rw [hrelay])
  · exact effect_of_same hhistory (by rw [hrelay])
  · exact .quiet _ hhistory (by simp [Milestone.concernsConnection]) (by rw [hrelay])
      (by rw [hrelay]) (by rw [hrelay])
  · exact .quiet _ hhistory (by simp [Milestone.concernsConnection]) (by rw [hrelay])
      (by rw [hrelay]) (by rw [hrelay])

theorem effect_step (h : Step s t) : Effect s t := by
  cases h with
  | connect => exact effect_connect
  | closeSession => exact .detached (List.append_nil _) rfl
  | recordSuccess => exact .succeeded rfl rfl
  | recordFailure e => exact .failed e rfl Relay.recordFailure_connection_eq
  | beginAttempt now => exact effect_beginAttempt
  | wake h => exact effect_wake
  | finish h => exact .quiet [] rfl (by simp) rfl rfl rfl
  | ask h =>
    obtain ⟨session, link, -, -, rfl⟩ := Relay.ask?_eq_some h
    exact effect_of_same (List.append_nil _) rfl
  | emit status =>
    obtain ⟨dropped, journal, hrelay⟩ := s.emit_relay status
    refine .quiet _ (by rw [turn, List.append_assoc]) ?_ ?_ ?_ ?_
    · simp [Milestone.concernsConnection]
    all_goals rw [hrelay]
  | take =>
    obtain ⟨status, q, heq⟩ | ⟨q, heq⟩ := s.take_cases
    · rw [heq]
      exact .quiet [.received status] rfl (by simp [Milestone.concernsConnection]) rfl rfl rfl
    · rw [heq]
      exact effect_of_same (List.append_nil _) rfl
  | remark | sever | setReachable | setFiles | signal | leave | retire =>
    exact effect_of_same (List.append_nil _) rfl

/-- What has happened stays so. -/
theorem history_step (h : Step s t) : s.history <+: t.history := by
  cases effect_step h with
  | quiet milestones hhistory => exact ⟨milestones, hhistory.symm⟩
  | detached hhistory => exact hhistory ▸ List.prefix_rfl
  | opened milestone hopening hhistory => exact ⟨_, hhistory.symm⟩
  | succeeded hhistory => exact ⟨_, hhistory.symm⟩
  | failed e hhistory => exact ⟨_, hhistory.symm⟩

theorem history_run (s : Scene) (actions : List Action) :
    s.history <+: (s.run actions).history :=
  (steps_run s actions).keep (I := fun u => s.history <+: u.history)
    (fun h hu => hu.trans (history_step h)) List.prefix_rfl

end Scene

end HealthRelay
