import HealthRelay.Proofs.Aside
import HealthRelay.Proofs.ErrorStreak

/-!
The numbers of the health checks that reach the plugin: one after another from the first, however
often the connection is lost and brought back.
-/
namespace HealthRelay

variable {r r' : Relay} {s : Scene} {n : Nat} {stamp : Timestamp} {e : CallError}

/-- The numbers from one on, each with the same parameters. -/
def numbered (parameters : Table String) (n : Nat) : List (Int × Table String) :=
  (List.range' 1 n).map fun (k : Nat) => ((k : Int), parameters)

theorem numbered_succ (parameters : Table String) (n : Nat) :
    numbered parameters (n + 1) =
      numbered parameters n ++ [(((n + 1 : Nat) : Int), parameters)] := by
  simp [numbered, List.range'_concat, Nat.add_comm]

namespace Relay

theorem isSome_ask? (r : Relay) : r.ask?.isSome = r.isConnected := by
  rw [ask?, Option.isSome_map, liveSession?]
  cases hconnected : r.isConnected with
  | false => rfl
  | true =>
    rw [isConnected, Bool.and_eq_true] at hconnected
    exact Option.isSome_of_any hconnected.2

/-- A health check has been made if the relay is connected, and else none. -/
def Asked (r r' : Relay) : Prop :=
  match r.ask? with
  | none => r.Unasked r'
  | some (_, asked) => asked.Unasked r'

theorem Asked.cases (h : r.Asked r') :
    (r.isConnected = true ∧ ∃ answer asked, r.ask? = some (answer, asked) ∧ asked.Unasked r') ∨
    (r.isConnected = false ∧ r.Unasked r') := by
  rw [← isSome_ask?]
  rw [Asked] at h
  rcases hask : r.ask? with _ | ⟨answer, asked⟩ <;> rw [hask] at h
  · exact .inr ⟨rfl, h⟩
  · exact .inl ⟨rfl, answer, asked, rfl, h⟩

theorem isLive_of_liveSession? (h : r.liveSession? = some n) : r.link.isLive n = true := by
  rw [liveSession?] at h
  split at h
  · next hconnected =>
    rw [isConnected, h, Bool.and_eq_true] at hconnected
    exact hconnected.2
  · cases h

/-- A health check has the next number and the parameters of the settings. -/
theorem checks_of_ask? {answer : Except CallError Plugin.Report} (hattached : r.link.Attached)
    (h : r.ask? = some (answer, r')) :
    r'.settings = r.settings ∧ r'.sequence = r.sequence + 1 ∧ r'.link.Attached ∧
      r'.link.plugin.checks = r.link.plugin.checks ++
        [(((r.sequence + 1 : Nat) : Int), r.settings.pluginSettings.parameters)] := by
  obtain ⟨session, link, hsession, hcall, rfl⟩ := ask?_eq_some h
  obtain rfl : (r.link.checkHealth session _ _).2 = link := congrArg Prod.snd hcall
  have hlive : r.link.isLive session = true := isLive_of_liveSession? hsession
  exact ⟨rfl, rfl, hattached.call, Link.checks_checkHealth hattached hlive _ _⟩

end Relay

namespace Poller

theorem unasked_emit (p : Poller) (status : Status) :
    p.relay.Unasked (p.emit status).2.relay := by
  obtain ⟨dropped, journal, heq⟩ := p.emit_relay status
  rw [heq]
  exact ⟨rfl, rfl, rfl, id⟩

theorem unasked_sendInitial (p : Poller) : p.relay.Unasked (p.sendInitial stamp).relay := by
  rw [sendInitial]
  split
  · exact .refl p.relay
  · let remarked : Relay := p.relay.remark .info "Sending initial status"
      [("conditions", toString p.relay.settings.conditions.length)]
    have hremark : p.relay.Unasked remarked := ⟨rfl, rfl, rfl, id⟩
    exact hremark.trans (unasked_emit { p with relay := remarked } _)

theorem unasked_accept (p : Poller) (report : Plugin.Report) :
    p.relay.Unasked (p.accept stamp report).2.relay := by
  have hrecord : p.relay.Unasked p.relay.recordSuccess := ⟨rfl, rfl, rfl, id⟩
  rw [accept]
  split
  · exact hrecord.trans (unasked_emit { p with relay := p.relay.recordSuccess } _)
  · exact hrecord

theorem asked_poll (p : Poller) (now : Nat) (stamp : Timestamp) :
    p.relay.Asked (p.poll now stamp).2.relay := by
  rw [Relay.Asked, poll_eq, beginPoll_eq]
  rcases p.relay.ask? with _ | ⟨e | report, r⟩
  · exact ⟨rfl, rfl, rfl, id⟩
  · exact (r.aside_handleFailure now e).toUnasked
  · exact unasked_accept { p with relay := r } report

theorem asked_beginPoll (p : Poller) (now : Nat) (stamp : Timestamp) :
    p.relay.Asked (p.beginPoll now stamp).2.2.relay := by
  rw [Relay.Asked, beginPoll_eq]
  rcases p.relay.ask? with _ | ⟨e | report, r⟩
  · exact ⟨rfl, rfl, rfl, id⟩
  · exact (r.aside_beginFailure now e).toUnasked
  · exact unasked_accept { p with relay := r } report

/-- A poll of a relay that is not connected sends nothing. -/
theorem poll_of_not_connected (p : Poller) (h : p.relay.isConnected = false) (now : Nat)
    (stamp : Timestamp) :
    (p.poll now stamp).1 = .notConnected ∧ (p.poll now stamp).2.relay.link = p.relay.link ∧
      (p.poll now stamp).2.relay.sequence = p.relay.sequence := by
  have hnone : p.relay.ask? = none := by
    rw [← Option.not_isSome_iff_eq_none, p.relay.isSome_ask?, h]
    decide
  simp only [poll, beginPoll_eq, hnone]
  exact ⟨trivial, rfl, rfl⟩

end Poller

namespace Scene

/-- The action is a poll that finds the relay connected, by a poller that has not come to its
end. -/
def asks (s : Scene) : Action → Bool
  | .poll _ _ | .beginPoll _ _ => s.outbox.senderOpen && s.relay.isConnected
  | _ => false

/-- A health check is made by a poll that finds the relay connected, and by nothing else. -/
theorem perform_cases (s : Scene) (a : Action) :
    (s.asks a = true ∧
      ∃ answer asked, s.relay.ask? = some (answer, asked) ∧ asked.Unasked (s.perform a).relay) ∨
    (s.asks a = false ∧ s.relay.Unasked (s.perform a).relay) := by
  cases a with
  | poll now stamp =>
    -- A poller that has come to its end asks nothing.
    simp only [perform, work, asks]
    cases s.outbox.senderOpen with
    | false => exact .inr ⟨rfl, .refl s.relay⟩
    | true => exact (s.poller.asked_poll now stamp).cases
  | beginPoll now stamp =>
    simp only [perform, work, asks]
    cases s.outbox.senderOpen with
    | false => exact .inr ⟨rfl, .refl s.relay⟩
    | true => exact (s.poller.asked_beginPoll now stamp).cases
  | connect => exact .inr ⟨rfl, s.relay.aside_connect.toUnasked⟩
  | attempt now => exact .inr ⟨rfl, (s.relay.aside_attemptReconnection now).toUnasked⟩
  | fail now e => exact .inr ⟨rfl, (s.relay.aside_handleFailure now e).toUnasked⟩
  | closeSession => exact .inr ⟨rfl, s.relay.aside_closeSession.toUnasked⟩
  | beginAttempt now => exact .inr ⟨rfl, (s.relay.aside_beginAttempt now).toUnasked⟩
  | beginFail now e => exact .inr ⟨rfl, (s.relay.aside_beginFailure now e).toUnasked⟩
  | sendInitial stamp =>
    refine .inr ⟨rfl, ?_⟩
    simp only [perform, work]
    split
    · exact s.poller.unasked_sendInitial
    · exact .refl s.relay
  | wake =>
    refine .inr ⟨rfl, ?_⟩
    simp only [perform]
    split
    · exact s.relay.aside_wakeAttempt.toUnasked
    · exact .refl s.relay
  | finish =>
    refine .inr ⟨rfl, ?_⟩
    simp only [perform]
    split
    · exact ⟨rfl, rfl, rfl, id⟩
    · exact .refl s.relay
  | sever => exact .inr ⟨rfl, s.relay.aside_sever.toUnasked⟩
  | tryRecv =>
    refine .inr ⟨rfl, ?_⟩
    simp only [perform]
    split <;> exact .refl s.relay
  | recvTimeout limit =>
    refine .inr ⟨rfl, ?_⟩
    simp only [perform]
    split <;> exact .refl s.relay
  | recv =>
    refine .inr ⟨rfl, ?_⟩
    simp only [perform]
    split <;> exact .refl s.relay
  | succeed | setReachable | setFiles | signal | leave | retire =>
    exact .inr ⟨rfl, ⟨rfl, rfl, rfl, id⟩⟩

theorem sequence_perform (s : Scene) (a : Action) :
    (s.perform a).relay.sequence =
      if s.asks a then s.relay.sequence + 1 else s.relay.sequence := by
  obtain ⟨hasks, answer, asked, hask, hrest⟩ | ⟨hasks, hrest⟩ := s.perform_cases a
  · obtain ⟨session, link, -, -, rfl⟩ := Relay.ask?_eq_some hask
    rw [hasks, hrest.sequence]
    rfl
  · rw [hasks, hrest.sequence]
    rfl

/-- The health checks made so far have the numbers up to that of the relay. -/
structure Numbered (before : List (Int × Table String)) (s : Scene) : Prop where
  attached : s.relay.link.Attached
  checks : s.relay.link.plugin.checks =
    before ++ numbered s.relay.settings.pluginSettings.parameters s.relay.sequence

theorem numbered_perform {before : List (Int × Table String)} (hs : Numbered before s)
    (a : Action) : Numbered before (s.perform a) := by
  obtain ⟨-, answer, asked, hask, hrest⟩ | ⟨-, hrest⟩ := s.perform_cases a
  · obtain ⟨hsettings, hsequence, hattached, hchecks⟩ :=
      Relay.checks_of_ask? hs.attached hask
    refine ⟨hrest.attached hattached, ?_⟩
    rw [hrest.checks, hrest.settings, hrest.sequence, hchecks, hsettings, hsequence, hs.checks,
      numbered_succ, List.append_assoc]
  · refine ⟨hrest.attached hs.attached, ?_⟩
    rw [hrest.checks, hrest.settings, hrest.sequence, hs.checks]

theorem numbered_run {before : List (Int × Table String)} (hs : Numbered before s)
    (actions : List Action) : Numbered before (s.run actions) := by
  induction actions generalizing s with
  | nil => exact hs
  | cons a actions ih => exact ih (numbered_perform hs a)

theorem numbered_initial (b : Beginning) : Numbered b.plugin.checks b.scene where
  attached session hmem := by cases hmem
  checks := (List.append_nil _).symm

/-- Until a session is opened again, what is lost stays lost. -/
theorem isLost_append {history gained : List Milestone} (h : isLost history = true)
    (hgained : ∀ m ∈ gained, m.isOpening = false) : isLost (history ++ gained) = true := by
  induction gained generalizing history with
  | nil => simpa using h
  | cons m gained ih =>
    rw [List.append_cons]
    apply ih
    · rw [isLost_concat, hgained m List.mem_cons_self, h]
      simp
    · exact fun m hm => hgained m (List.mem_cons_of_mem _ hm)

/-- A connection is lost by a transient failure after which no session was opened. -/
theorem isLost_of_failed {before after : List Milestone} (h : e.triage = .transient)
    (hafter : ∀ m ∈ after, m.isOpening = false) : isLost (before ++ .failed e :: after) = true := by
  have hcode : e.code = .unavailable ∨ e.code = .deadlineExceeded := by
    have hdisconnects : e.triage.disconnects = _ := e.code.disconnects_triage
    rw [h] at hdisconnects
    exact of_decide_eq_true hdisconnects.symm
  rw [List.append_cons]
  apply isLost_append
  · rw [isLost_concat]
    simp [Milestone.isOpening, Milestone.isLoss, hcode]
  · exact hafter

/-- Nothing is asked while the connection is lost. One action at a time: a relay that has lost its
connection is not connected, so the action asks nothing, and without an opening it stays lost. -/
theorem unasked_run_of_isLost (hs : Accounted s) (hlost : isLost s.history = true)
    {actions : List Action} {gained : List Milestone}
    (hgained : (s.run actions).history = s.history ++ gained)
    (hopening : ∀ m ∈ gained, m.isOpening = false) :
    s.relay.Unasked (s.run actions).relay := by
  induction actions generalizing s gained with
  | nil => exact .refl s.relay
  | cons a actions ih =>
    obtain ⟨first, hfirst⟩ : s.history <+: (s.perform a).history := s.history_run [a]
    obtain ⟨rest, hrest⟩ := (s.perform a).history_run actions
    have hsplit : gained = first ++ rest := by
      rw [← hfirst, List.append_assoc] at hrest
      exact List.append_cancel_left (hgained.symm.trans hrest.symm)
    have hstill : isLost (s.perform a).history = true := by
      rw [← hfirst]
      exact isLost_append hlost fun m hm => hopening m (hsplit ▸ List.mem_append_left _ hm)
    have hdown : s.relay.isConnected = false := by
      rw [Relay.isConnected, hs.connected, hlost]
      simp
    have hfirstUnasked : s.relay.Unasked (s.perform a).relay := by
      obtain ⟨hasks, -⟩ | ⟨-, hrelay⟩ := s.perform_cases a
      · cases a <;> simp [asks, hdown] at hasks
      · exact hrelay
    have hs' : Accounted (s.perform a) := (steps_perform s a).keep accounted_step hs
    exact hfirstUnasked.trans
      (ih hs' hstill hrest.symm fun m hm => hopening m (hsplit ▸ List.mem_append_right _ hm))

end Scene

/-- Whatever is done in whatever order, the health checks that reach the plugin have the numbers
from one up to that of the relay, one after another, each with the parameters of the settings.
Only a poll that finds the relay connected makes the number go up, by one, and nothing makes it go
down. A poll that finds the relay not connected sends nothing. After a failed call that did not
get through to the plugin, no health check is made until a session has been opened, which includes
the question who is at the other end. -/
theorem checks_numbered_in_order (b : Beginning) (actions : List Action) :
    let s := b.scene.run actions
    let r := s.relay
    r.link.plugin.checks =
      b.plugin.checks ++ numbered b.settings.pluginSettings.parameters r.sequence ∧
    (∀ a, (s.perform a).relay.sequence = if s.asks a then r.sequence + 1 else r.sequence) ∧
    (r.isConnected = false → ∀ now stamp,
      let polled := s.poller.poll now stamp
      polled.1 = .notConnected ∧ polled.2.relay.link = r.link ∧
        polled.2.relay.sequence = r.sequence) ∧
    (∀ before e after, s.history = before ++ .failed e :: after → e.triage = .transient → ∀ later,
      let t := s.run later
      (∀ m ∈ after ++ t.history.drop s.history.length, m.isOpening = false) →
        t.relay.link.plugin.checks = r.link.plugin.checks ∧ t.relay.sequence = r.sequence) := by
  intro s r
  have hs : Scene.Numbered b.plugin.checks s :=
    Scene.numbered_run (Scene.numbered_initial b) actions
  have hsettings : r.settings = b.settings := Scene.settings_run b.scene actions
  refine ⟨?_, s.sequence_perform, ?_, ?_⟩
  · rw [hs.checks, ← hsettings]
  · intro hdown now stamp
    exact s.poller.poll_of_not_connected hdown now stamp
  · intro before e after hhistory htransient later t hopening
    obtain ⟨gained, hgained⟩ := s.history_run later
    have hdrop : t.history.drop s.history.length = gained := by
      rw [← hgained, List.drop_left]
    rw [hdrop] at hopening
    have hlost : isLost s.history = true := by
      rw [hhistory]
      exact Scene.isLost_of_failed htransient fun m hm => hopening m (List.mem_append_left _ hm)
    have hunasked : r.Unasked t.relay :=
      Scene.unasked_run_of_isLost (Scene.accounted_run b actions) hlost hgained.symm
        fun m hm => hopening m (List.mem_append_right _ hm)
    exact ⟨hunasked.checks, hunasked.sequence⟩

end HealthRelay
