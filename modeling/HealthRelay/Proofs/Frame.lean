import HealthRelay.Proofs.Step

/-!
What the operations of a relay leave alone, and what else its callers need to know of them.
-/
namespace HealthRelay

variable {s t : Scene} {r : Relay} {level : Level} {text : String} {fields : List (String × String)}
  {now id : Nat} {e : CallError} {link : Link} {error : ConnectError}

namespace Relay

@[simp] theorem remark_settings : (r.remark level text fields).settings = r.settings := rfl

@[simp] theorem remark_link : (r.remark level text fields).link = r.link := rfl

@[simp] theorem remark_connection : (r.remark level text fields).connection = r.connection := rfl

@[simp] theorem closeSession_settings : r.closeSession.settings = r.settings := rfl

@[simp] theorem closeSession_connection :
    r.closeSession.connection = r.connection.detach := rfl

theorem remarkFailure_eq (r : Relay) (e : CallError) :
    ∃ journal, r.remarkFailure e = { r with journal := journal } := by
  rw [remarkFailure]
  split <;> exact ⟨_, rfl⟩

/-- A failure touches the connection only when it counts. -/
theorem recordFailure_eq (r : Relay) (e : CallError) :
    ∃ journal, (r.recordFailure e).2 = { r with
      connection :=
        if e.triage.counts then r.connection.countError e.triage.disconnects else r.connection
      journal := journal } := by
  obtain ⟨journal, heq⟩ := r.remarkFailure_eq e
  rw [recordFailure, heq]
  cases hcounts : e.triage.counts with
  | false => exact ⟨journal, rfl⟩
  | true =>
    simp only [if_true]
    split <;> exact ⟨_, rfl⟩

@[simp] theorem recordFailure_settings : (r.recordFailure e).2.settings = r.settings := by
  obtain ⟨journal, heq⟩ := r.recordFailure_eq e
  rw [heq]

@[simp] theorem recordFailure_link : (r.recordFailure e).2.link = r.link := by
  obtain ⟨journal, heq⟩ := r.recordFailure_eq e
  rw [heq]

theorem recordFailure_connection :
    (r.recordFailure e).2.connection =
      if e.triage.counts then r.connection.countError e.triage.disconnects
      else r.connection := by
  obtain ⟨journal, heq⟩ := r.recordFailure_eq e
  rw [heq]

theorem handleFailure_eq_ite :
    r.handleFailure now e =
      if (r.recordFailure e).1 then ((r.recordFailure e).2.attemptReconnection now).2
      else (r.recordFailure e).2 := by
  rw [handleFailure_eq]
  rcases r.recordFailure e with ⟨_ | _, r'⟩ <;> rfl

theorem beginFailure_snd_eq_ite :
    (r.beginFailure now e).2 =
      if (r.recordFailure e).1 then ((r.recordFailure e).2.beginAttempt now).2
      else (r.recordFailure e).2 := by
  rw [beginFailure]
  rcases r.recordFailure e with ⟨_ | _, r'⟩
  · rfl
  · rcases h : r'.beginAttempt now with ⟨outcome | delay, r''⟩ <;> simp [h]

/-- Where nobody has answered yet, asking who is at the other end changes the link, as any call
does, and the identity is that of the answer, if there is one. -/
theorem identify_eq (hnobody : r.connection.identity = none) (session : Nat) :
    ∃ journal, r.identify session = { r with
      link := (r.link.getMetadata session).2
      connection := { r.connection with
        identity :=
          (r.link.getMetadata session).1.toOption.map (Identity.ofMetadata r.name r.endpoint) }
      journal := journal } := by
  unfold identify
  rcases r.link.getMetadata session with ⟨e | metadata, link⟩
  · have hsame : { r.connection with identity := none } = r.connection := by rw [← hnobody]
    dsimp only [Except.toOption, Option.map_none]
    rw [hsame]
    split <;> exact ⟨_, rfl⟩
  · exact ⟨_, rfl⟩

theorem connect_of_dial_error (h : r.closeSession.link.dial r.endpoint = .error error) :
    r.connect = (.error error, r.closeSession) := by
  have h' : r.closeSession.link.dial r.closeSession.endpoint = _ := h
  simp only [connect, h']

/-- A session that could be opened is put in place, with the identity that its plugin gives. -/
theorem connect_of_dial_ok (h : r.closeSession.link.dial r.endpoint = .ok (id, link)) :
    ∃ journal, r.connect = (.ok (), { r with
      link := (link.getMetadata id).2
      connection := { r.connection.install id with
        identity :=
          (link.getMetadata id).1.toOption.map (Identity.ofMetadata r.name r.endpoint) }
      journal := journal }) := by
  have h' : r.closeSession.link.dial r.closeSession.endpoint = _ := h
  obtain ⟨journal, heq⟩ := @identify_eq
    (({ r.closeSession with link := link, connection := r.connection.install id }).remark .info
      "Connected to external monitor" [("endpoint", r.endpoint)]) rfl id
  refine ⟨journal, ?_⟩
  simp only [connect, h']
  exact congrArg (Prod.mk (Except.ok ())) heq

/-- Opening a session either fails, and the one held has been closed, or puts a new one in place. -/
theorem connect_cases (r : Relay) :
    (∃ e, r.closeSession.link.dial r.endpoint = .error e ∧
      r.connect = (.error e, r.closeSession)) ∨
    (∃ id link identity journal, r.closeSession.link.dial r.endpoint = .ok (id, link) ∧
      r.connect = (.ok (), { r with
        link := (link.getMetadata id).2
        connection := { r.connection.install id with identity := identity }
        journal := journal })) := by
  rcases h : r.closeSession.link.dial r.endpoint with e | ⟨id, link⟩
  · exact .inl ⟨e, rfl, connect_of_dial_error h⟩
  · obtain ⟨journal, heq⟩ := connect_of_dial_ok h
    exact .inr ⟨id, link, _, journal, rfl, heq⟩

/-- An attempt is refused while another is under way, too soon after the last one, or when all
have been made; else it goes into its delay and counts. -/
theorem beginAttempt_cases (r : Relay) (now : Nat) :
    (r.connection.reconnecting = true ∧ r.beginAttempt now = (.refused .inProgress, r)) ∨
    (r.connection.reconnecting = false ∧ r.connection.isTooSoon now = true ∧
      r.beginAttempt now = (.refused .debounced, r)) ∨
    (r.connection.reconnecting = false ∧ r.connection.isTooSoon now = false ∧
      r.retry.isSpent r.connection.attempts = true ∧
      ∃ journal, r.beginAttempt now = (.refused .gaveUp, { r with
        connection := { r.connection with lastAttempt := some now, gaveUp := true }
        journal := journal })) ∨
    (r.connection.reconnecting = false ∧ r.connection.isTooSoon now = false ∧
      r.retry.isSpent r.connection.attempts = false ∧
      ∃ journal, r.beginAttempt now = (.waiting (r.retry.delay r.connection.attempts), { r with
        connection := { r.connection with
          lastAttempt := some now
          attempts := r.connection.attempts + 1
          reconnecting := true }
        journal := journal })) := by
  cases hr : r.connection.reconnecting with
  | true => exact .inl ⟨rfl, by simp [beginAttempt, hr]⟩
  | false =>
    cases hd : r.connection.isTooSoon now with
    | true => exact .inr (.inl ⟨rfl, rfl, by simp [beginAttempt, hr, hd]⟩)
    | false =>
      cases hs : r.retry.isSpent r.connection.attempts with
      | true =>
        refine .inr (.inr (.inl ⟨rfl, rfl, rfl, ?_⟩))
        cases hg : r.connection.gaveUp <;>
          exact ⟨_, by simp only [beginAttempt, hr, hd, hs, hg, remark]; rfl⟩
      | false =>
        refine .inr (.inr (.inr ⟨rfl, rfl, rfl, ?_⟩))
        exact ⟨_, by simp only [beginAttempt, hr, hd, hs, remark]; rfl⟩

/-- After its delay an attempt finds the monitor being stopped, or no endpoint, or connects. -/
theorem wakeAttempt_cases (r : Relay) :
    r.wakeAttempt = (.interrupted, r) ∨
    (∃ journal, r.wakeAttempt = (.endpointMissing, { r with journal := journal })) ∨
    (∃ e journal, r.connect.1 = .error e ∧
      r.wakeAttempt = (.failed, { r.connect.2 with journal := journal })) ∨
    (∃ journal, r.connect.1 = .ok () ∧
      r.wakeAttempt = (.connected, { r.connect.2 with journal := journal })) := by
  unfold wakeAttempt
  split
  · exact .inl rfl
  · split
    · exact .inr (.inl ⟨_, rfl⟩)
    · rcases r.connect with ⟨e | _, r'⟩
      · exact .inr (.inr (.inl ⟨e, _, rfl, rfl⟩))
      · exact .inr (.inr (.inr ⟨_, rfl, rfl⟩))

/-- A poll that is sent goes through the session held, with the next number. -/
theorem ask?_eq_some {answer : Except CallError Plugin.Report} {r' : Relay}
    (h : r.ask? = some (answer, r')) :
    ∃ session link, r.liveSession? = some session ∧
      r.link.checkHealth session (r.sequence + 1 : Nat) r.settings.pluginSettings.parameters =
        (answer, link) ∧
      r' = { r.advanceSequence with link := link } := by
  obtain ⟨session, hs, heq⟩ := Option.map_eq_some_iff.1 h
  obtain ⟨rfl, rfl⟩ := Prod.mk.inj heq
  exact ⟨session, _, hs, rfl, rfl⟩

end Relay

/-- Passing on a report leaves all of the relay but its count of drops and its journal. -/
theorem Poller.emit_relay (p : Poller) (status : Status) :
    ∃ dropped journal,
      (p.emit status).2.relay = { p.relay with dropped := dropped, journal := journal } := by
  unfold emit
  split <;> exact ⟨_, _, rfl⟩

/-- So does the report before the first, whether or not there is one. -/
theorem Poller.greet_relay (p : Poller) (stamp : Timestamp) :
    ∃ dropped journal,
      (p.greet stamp).relay = { p.relay with dropped := dropped, journal := journal } := by
  rw [greet]
  split
  · exact ⟨_, _, rfl⟩
  · rw [sendInitial]
    split
    · exact ⟨_, _, rfl⟩
    · exact emit_relay _ _

namespace Relay

@[simp] theorem connect_settings : r.connect.2.settings = r.settings := by
  obtain ⟨e, -, heq⟩ | ⟨id, link, identity, journal, -, heq⟩ := r.connect_cases <;> rw [heq]
  simp

@[simp] theorem connect_reconnecting :
    r.connect.2.connection.reconnecting = r.connection.reconnecting := by
  obtain ⟨e, -, heq⟩ | ⟨id, link, identity, journal, -, heq⟩ := r.connect_cases <;> rw [heq] <;>
    rfl

@[simp] theorem connect_stopping : r.connect.2.stopping = r.stopping := by
  obtain ⟨e, -, heq⟩ | ⟨id, link, identity, journal, -, heq⟩ := r.connect_cases <;> rw [heq]
  rfl

@[simp] theorem beginAttempt_settings : (r.beginAttempt now).2.settings = r.settings := by
  obtain ⟨-, heq⟩ | ⟨-, -, heq⟩ | ⟨-, -, -, journal, heq⟩ | ⟨-, -, -, journal, heq⟩ :=
    r.beginAttempt_cases now <;> rw [heq]

@[simp] theorem wakeAttempt_settings : r.wakeAttempt.2.settings = r.settings := by
  obtain heq | ⟨journal, heq⟩ | ⟨e, journal, -, heq⟩ | ⟨journal, -, heq⟩ := r.wakeAttempt_cases <;>
    rw [heq] <;> simp

@[simp] theorem wakeAttempt_reconnecting :
    r.wakeAttempt.2.connection.reconnecting = r.connection.reconnecting := by
  obtain heq | ⟨journal, heq⟩ | ⟨e, journal, -, heq⟩ | ⟨journal, -, heq⟩ := r.wakeAttempt_cases <;>
    rw [heq] <;> simp

@[simp] theorem recordFailure_reconnecting :
    (r.recordFailure e).2.connection.reconnecting = r.connection.reconnecting := by
  rw [recordFailure_connection]
  split <;> rfl

end Relay

namespace Scene

/-- The host can change nothing of the relay. -/
@[simp] theorem take_relay (s : Scene) : (take s).relay = s.relay := by
  obtain ⟨status, q, heq⟩ | ⟨q, heq⟩ := s.take_cases <;> rw [heq] <;> rfl

@[simp] theorem take_asleep (s : Scene) : (take s).asleep = s.asleep := by
  obtain ⟨status, q, heq⟩ | ⟨q, heq⟩ := s.take_cases <;> rw [heq] <;> rfl

@[simp] theorem take_ending (s : Scene) : (take s).ending = s.ending := by
  obtain ⟨status, q, heq⟩ | ⟨q, heq⟩ := s.take_cases <;> rw [heq] <;> rfl

theorem emit_relay (s : Scene) (status : Status) :
    ∃ dropped journal, (s.turn [] (s.poller.emit status).2).relay =
      { s.relay with dropped := dropped, journal := journal } :=
  s.poller.emit_relay status

/-- The settings are never changed. -/
theorem settings_step (h : Step s t) : t.relay.settings = s.relay.settings := by
  cases h with
  | connect => exact Relay.connect_settings
  | recordFailure e => exact Relay.recordFailure_settings
  | beginAttempt now => exact Relay.beginAttempt_settings
  | wake h => exact Relay.wakeAttempt_settings
  | ask h =>
    obtain ⟨session, link, -, -, rfl⟩ := Relay.ask?_eq_some h
    rfl
  | emit status =>
    obtain ⟨dropped, journal, heq⟩ := s.emit_relay status
    rw [heq]
  | take => rw [take_relay]
  | remark | closeSession | recordSuccess | finish | sever | setReachable | setFiles | signal |
    leave | retire => rfl

theorem settings_run (s : Scene) (actions : List Action) :
    (s.run actions).relay.settings = s.relay.settings :=
  (steps_run s actions).keep (fun h hu => (settings_step h).trans hu) rfl

end Scene

end HealthRelay
