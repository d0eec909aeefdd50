import HealthRelay.Proofs.Opening

/-!
What an attempt to connect again does, by how it goes; and what is held once a connection has been
reported.

What surrounds the relay may change while an attempt waits out its delay.
-/
namespace HealthRelay

/-- What an attempt meets after its delay. -/
structure Surroundings where
  stopping : Bool
  reachable : Bool
  files : FileTree
  /-- What the plugin answers when it is asked who it is. -/
  metadata : Plugin.Script (Except Refusal Plugin.Metadata)

/-- An attempt that goes so has tried to open a session. -/
def Outcome.opens : Outcome → Bool
  | .failed | .connected => true
  | .debounced | .inProgress | .gaveUp | .interrupted | .endpointMissing => false

namespace Relay

variable {r t : Relay} {w : Surroundings} {now : Nat} {outcome : Outcome}

def surroundings (r : Relay) : Surroundings where
  stopping := r.stopping
  reachable := r.link.reachable
  files := r.link.files
  metadata := r.link.plugin.metadata

/-- In other surroundings. -/
def within (w : Surroundings) (r : Relay) : Relay :=
  { r with
    stopping := w.stopping
    link := { r.link with
      reachable := w.reachable
      files := w.files
      plugin := { r.link.plugin with metadata := w.metadata } } }

/-- A whole attempt, in whose delay the surroundings become others. -/
def attemptWithin (w : Surroundings) (now : Nat) (r : Relay) : Outcome × Relay :=
  match r.beginAttempt now with
  | (.refused outcome, r) => (outcome, r)
  | (.waiting _, r) => (r.within w).finishAttempt

/-- In the surroundings that were there before it is a whole attempt. -/
theorem attemptWithin_surroundings (r : Relay) (now : Nat) :
    r.attemptWithin r.surroundings now = r.attemptReconnection now := by
  rw [attemptWithin, attemptReconnection]
  obtain ⟨-, heq⟩ | ⟨-, -, heq⟩ | ⟨-, -, -, journal, heq⟩ | ⟨-, -, -, journal, heq⟩ :=
    r.beginAttempt_cases now <;> rw [heq]
  rfl

/-- What an attempt does, by how it went: from the first relay to the second. -/
def Attempted (w : Surroundings) (now : Nat) (r t : Relay) : Outcome → Prop
  | .debounced | .inProgress => t = r
  | .gaveUp =>
    ∃ journal, t = { r with
      connection := { r.connection with lastAttempt := some now, gaveUp := true }
      journal := journal }
  | .interrupted | .endpointMissing =>
    ∃ journal, t = { r.within w with
      connection := { r.connection with
        lastAttempt := some now
        attempts := r.connection.attempts + 1 }
      journal := journal }
  | .failed =>
    ∃ journal, t = { r.within w with
      link := (r.within w).closeSession.link
      connection := { r.connection with
        session := none
        connected := false
        lastAttempt := some now
        attempts := r.connection.attempts + 1 }
      journal := journal }
  | .connected =>
    ∃ journal, t = { r.within w with
      link := (r.within w).closeSession.link.greeted r.endpoint
      connection :=
        { session := some r.link.openCount
          identity := (r.within w).caller?
          connected := true
          lastAttempt := some now
          attempts := 0
          errors := 0
          reconnecting := false
          gaveUp := false }
      journal := journal }

/-- An attempt after its delay, in a relay that has begun it. -/
theorem attempted_finishAttempt (hidle : r.connection.reconnecting = false) (w : Surroundings)
    (now : Nat) (journal : List Remark) :
    let woken := { r with
      connection := { r.connection with
        lastAttempt := some now
        attempts := r.connection.attempts + 1
        reconnecting := true }
      journal := journal }.within w
    r.Attempted w now woken.finishAttempt.2 woken.finishAttempt.1 := by
  intro woken
  have hended : r.connection = { r.connection with reconnecting := false } := by rw [← hidle]
  obtain heq | ⟨journal', heq⟩ | ⟨e, journal', hfailed, heq⟩ | ⟨journal', hopened, heq⟩ :=
    woken.wakeAttempt_cases
  all_goals simp only [finishAttempt, heq]
  · refine ⟨journal, ?_⟩
    rw [hended]
    rfl
  · refine ⟨journal', ?_⟩
    rw [hended]
    rfl
  · refine ⟨journal', ?_⟩
    rw [connect_snd_of_error hfailed, hended]
    rfl
  · obtain ⟨journal'', hconnect⟩ := connect_snd_of_ok hopened
    refine ⟨journal', ?_⟩
    rw [hconnect]
    rfl

theorem finishAttempt_ne_inProgress (r : Relay) : r.finishAttempt.1 ≠ .inProgress := by
  rw [finishAttempt]
  obtain heq | ⟨journal, heq⟩ | ⟨e, journal, -, heq⟩ | ⟨journal, -, heq⟩ := r.wakeAttempt_cases <;>
    simp [heq]

theorem attempted_attemptWithin (r : Relay) (w : Surroundings) (now : Nat) :
    r.Attempted w now (r.attemptWithin w now).2 (r.attemptWithin w now).1 := by
  rw [attemptWithin]
  obtain ⟨-, heq⟩ | ⟨-, -, heq⟩ | ⟨-, -, -, journal, heq⟩ | ⟨hidle, -, -, journal, heq⟩ :=
    r.beginAttempt_cases now <;> rw [heq]
  · exact rfl
  · exact rfl
  · exact ⟨journal, rfl⟩
  · exact attempted_finishAttempt hidle w now journal

/-- An attempt finds another under way just when the relay says so. -/
theorem attemptWithin_eq_inProgress_iff :
    (r.attemptWithin w now).1 = .inProgress ↔ r.connection.reconnecting = true := by
  rw [attemptWithin]
  obtain ⟨hbusy, heq⟩ | ⟨hidle, -, heq⟩ | ⟨hidle, -, -, journal, heq⟩ |
    ⟨hidle, -, -, journal, heq⟩ := r.beginAttempt_cases now <;> rw [heq]
  · exact iff_of_true rfl hbusy
  · exact iff_of_false (by simp) (by simp [hidle])
  · exact iff_of_false (by simp) (by simp [hidle])
  · exact iff_of_false (finishAttempt_ne_inProgress _) (by simp [hidle])

/-- What stops an attempt before it opens a session, if anything does. -/
def hindrance? (r : Relay) : Option Outcome :=
  if r.stopping then some .interrupted
  else match r.link.files.lookup r.endpoint with
    | .error _ => some .endpointMissing
    | .ok _ => none

/-- How an attempt goes that nothing stops before. -/
def opening (r : Relay) : Outcome :=
  match r.connect.1 with
  | .ok _ => .connected
  | .error _ => .failed

theorem opens_opening (r : Relay) : r.opening.opens = true := by
  rw [opening]
  split <;> rfl

theorem wakeAttempt_fst (r : Relay) : r.wakeAttempt.1 = r.hindrance?.getD r.opening := by
  by_cases hstopping : r.stopping = true
  · simp [hindrance?, wakeAttempt, hstopping]
  · cases hfile : r.link.files.lookup r.endpoint with
    | error e => simp [hindrance?, wakeAttempt, hstopping, hfile]
    | ok file =>
      rcases hconnect : r.connect with ⟨e | _, r'⟩ <;>
        simp [hindrance?, wakeAttempt, opening, hstopping, hfile, hconnect]

/-- Whether a session could be opened, and what would be answered there, is nothing to an attempt
that does not try. -/
theorem attemptWithin_of_not_opens (h : (r.attemptWithin w now).1.opens = false)
    (reachable : Bool) (metadata : Plugin.Script (Except Refusal Plugin.Metadata)) :
    (r.attemptWithin { w with reachable := reachable, metadata := metadata } now).1 =
      (r.attemptWithin w now).1 := by
  let other : Surroundings := { w with reachable := reachable, metadata := metadata }
  change (r.attemptWithin other now).1 = _
  rw [attemptWithin] at h ⊢
  rw [attemptWithin]
  rcases hbegin : r.beginAttempt now with ⟨outcome | delay, begun⟩
  · rfl
  · rw [hbegin] at h
    change (begun.within w).wakeAttempt.1.opens = false at h
    change (begun.within other).wakeAttempt.1 = (begun.within w).wakeAttempt.1
    have hsame : (begun.within other).hindrance? = (begun.within w).hindrance? := rfl
    rw [wakeAttempt_fst] at h
    rw [wakeAttempt_fst, wakeAttempt_fst, hsame]
    cases hhindrance : (begun.within w).hindrance? with
    | none => simp [hhindrance, opens_opening] at h
    | some outcome => rfl

theorem Attempted.reconnecting (h : r.Attempted w now t outcome)
    (hidle : r.connection.reconnecting = false) : t.connection.reconnecting = false := by
  cases outcome with
  | debounced | inProgress => rwa [h]
  | gaveUp | interrupted | endpointMissing | failed =>
    obtain ⟨journal, rfl⟩ := h
    exact hidle
  | connected =>
    obtain ⟨journal, rfl⟩ := h
    rfl

/-- An attempt that does not try to open a session leaves all sessions alone, and the plugin. -/
theorem Attempted.untouched (h : r.Attempted w now t outcome) (hopens : outcome.opens = false) :
    t.link.sessions = r.link.sessions ∧ t.link.plugin.received = r.link.plugin.received := by
  cases outcome with
  | debounced | inProgress =>
    rw [h]
    exact ⟨rfl, rfl⟩
  | gaveUp | interrupted | endpointMissing =>
    obtain ⟨journal, rfl⟩ := h
    exact ⟨rfl, rfl⟩
  | failed | connected => cases hopens

/-- An attempt that opens no session leaves the count of sessions, and the plugin hears nothing. -/
theorem Attempted.failed (h : r.Attempted w now t .failed) :
    t.link.openCount = r.link.openCount ∧ t.link.plugin.received = r.link.plugin.received := by
  obtain ⟨journal, rfl⟩ := h
  refine ⟨(r.within w).openCount_closeSession, ?_⟩
  rw [(r.within w).plugin_closeSession]
  rfl

/-- A session just opened has the next place, it is not closed, and the plugin has been asked who it
is. -/
theorem Attempted.connected (h : r.Attempted w now t .connected) :
    t.link.openCount = r.link.openCount + 1 ∧
    (∃ state, t.link.state? r.link.openCount = some state ∧ state ≠ .closed) ∧
    t.link.plugin.received = .getMetadata :: r.link.plugin.received := by
  obtain ⟨journal, rfl⟩ := h
  have hcount : (r.within w).closeSession.link.openCount = r.link.openCount :=
    (r.within w).openCount_closeSession
  refine ⟨?_, ?_, ?_⟩
  · rw [Link.openCount_greeted, hcount]
  · refine ⟨_, hcount ▸ Link.state?_greeted, ?_⟩
    rw [Link.freshSession, ne_eq, ChannelState.settle_eq_closed_iff]
    decide
  · rw [Link.greeted, (r.within w).plugin_closeSession]
    rfl

theorem owned_within (h : r.Owned) (w : Surroundings) : (r.within w).Owned :=
  h.frame rfl rfl fun hc => hc

/-- An attempt that tries to open a session leaves none open of those there were. -/
theorem Attempted.closed (h : r.Attempted w now t outcome) (howned : r.Owned)
    (hopens : outcome.opens = true) {id : Nat} (hid : id < r.link.openCount) :
    t.link.state? id = some .closed := by
  have hcount : id < (r.within w).closeSession.link.openCount := by
    rwa [(r.within w).openCount_closeSession]
  have hsession : (r.within w).closeSession.link.sessions[id]? = some _ :=
    List.getElem?_eq_getElem hcount
  have hclosed := (owned_within howned w).closeSession.closed_of_not_held hsession nofun
  cases outcome with
  | failed =>
    obtain ⟨journal, rfl⟩ := h
    rw [Link.state?, hsession, Option.map_some, hclosed]
  | connected =>
    obtain ⟨journal, rfl⟩ := h
    rw [Link.state?, Link.getElem?_greeted hcount, hsession, Option.map_some, hclosed]
  | debounced | inProgress | gaveUp | interrupted | endpointMissing => cases hopens

end Relay

/-- Whatever has been done before, and whatever an attempt to connect again meets after its delay,
how it goes fixes what it does. Only one that tries to open a session touches those there are, and
the plugin: they are closed, and with success a new one is not. Another attempt is found under way
just when the relay says so, and else none is any more. -/
theorem outcome_fixes_effect (b : Beginning) (actions : List Action) (w : Surroundings)
    (now : Nat) :
    let r := (b.scene.run actions).relay
    let outcome := (r.attemptWithin w now).1
    let t := (r.attemptWithin w now).2
    r.Attempted w now t outcome ∧
    (outcome = .inProgress ↔ r.connection.reconnecting = true) ∧
    (outcome ≠ .inProgress → t.connection.reconnecting = false) ∧
    (outcome.opens = false →
      t.link.sessions = r.link.sessions ∧ t.link.plugin.received = r.link.plugin.received ∧
      ∀ reachable metadata,
        (r.attemptWithin { w with reachable := reachable, metadata := metadata } now).1 =
          outcome) ∧
    (outcome.opens = true → ∀ id < r.link.openCount, t.link.state? id = some .closed) ∧
    (outcome = .failed →
      t.link.openCount = r.link.openCount ∧
      t.link.plugin.received = r.link.plugin.received) ∧
    (outcome = .connected →
      t.link.openCount = r.link.openCount + 1 ∧
      (∃ state, t.link.state? r.link.openCount = some state ∧ state ≠ .closed) ∧
      t.link.plugin.received = .getMetadata :: r.link.plugin.received) ∧
    r.attemptWithin r.surroundings now = r.attemptReconnection now := by
  intro r outcome t
  have h : r.Attempted w now t outcome := r.attempted_attemptWithin w now
  refine ⟨h, Relay.attemptWithin_eq_inProgress_iff, ?_, ?_, ?_, ?_, ?_, ?_⟩
  · intro hfree
    apply h.reconnecting
    rw [← Bool.not_eq_true]
    exact fun hbusy => hfree (Relay.attemptWithin_eq_inProgress_iff.2 hbusy)
  · intro hopens
    obtain ⟨hsessions, hreceived⟩ := h.untouched hopens
    exact ⟨hsessions, hreceived, Relay.attemptWithin_of_not_opens hopens⟩
  · intro hopens id hid
    exact h.closed (Scene.owned_run b actions) hopens hid
  · intro hfailed
    rw [hfailed] at h
    exact h.failed
  · intro hconnected
    rw [hconnected] at h
    exact h.connected
  · exact r.attemptWithin_surroundings now

namespace Relay

variable {r t : Relay}

/-- A relay that holds a session opened in place of the last one is connected, unless the plugin has
answered there that it is unavailable. -/
theorem isConnected_of_opened {endpoint : String}
    (hlink : t.link = r.closeSession.link.greeted endpoint)
    (hconnected : t.connection.connected = true)
    (hsession : t.connection.session = some r.link.openCount) :
    t.isConnected = true ↔ Refusal.code? r.link.plugin.metadata.next ≠ some .unavailable := by
  rw [isConnected, hconnected, hsession, hlink, Option.any_some, Bool.true_and,
    ← r.openCount_closeSession, Link.isLive_greeted, r.plugin_closeSession]

end Relay

/-- A connection that is reported is held, and taken to be one; and the session takes calls, unless
the plugin has just answered there that it is unavailable. Of an attempt that holds whatever it
meets after its delay. -/
theorem reported_connection_held (r : Relay) (w : Surroundings) (now : Nat) :
    let opened := r.connect.2
    let outcome := (r.attemptWithin w now).1
    let t := (r.attemptWithin w now).2
    (r.connect.1 = .ok () →
      opened.connection.session = some r.link.openCount ∧ opened.connection.connected = true ∧
      (opened.isConnected = true ↔
        Refusal.code? r.link.plugin.metadata.next ≠ some .unavailable)) ∧
    (outcome = .connected →
      t.connection.session = some r.link.openCount ∧ t.connection.connected = true ∧
      (t.isConnected = true ↔ Refusal.code? w.metadata.next ≠ some .unavailable)) ∧
    r.attemptWithin r.surroundings now = r.attemptReconnection now := by
  intro opened outcome t
  refine ⟨?_, ?_, r.attemptWithin_surroundings now⟩
  · intro hok
    obtain ⟨journal, hopened⟩ := Relay.connect_snd_of_ok hok
    have hlink : opened.link = r.closeSession.link.greeted r.endpoint := congrArg Relay.link hopened
    have hconnection := congrArg Relay.connection hopened
    have hsession : opened.connection.session = some r.link.openCount :=
      congrArg Connection.session hconnection
    have hconnected : opened.connection.connected = true :=
      congrArg Connection.connected hconnection
    exact ⟨hsession, hconnected, Relay.isConnected_of_opened hlink hconnected hsession⟩
  · intro houtcome
    have h : r.Attempted w now t outcome := r.attempted_attemptWithin w now
    rw [houtcome] at h
    obtain ⟨journal, hopened⟩ := h
    have hlink : t.link = (r.within w).closeSession.link.greeted r.endpoint :=
      congrArg Relay.link hopened
    have hconnection := congrArg Relay.connection hopened
    have hsession : t.connection.session = some r.link.openCount :=
      congrArg Connection.session hconnection
    have hconnected : t.connection.connected = true := congrArg Connection.connected hconnection
    exact ⟨hsession, hconnected, Relay.isConnected_of_opened hlink hconnected hsession⟩

/-- A session can be opened with a plugin that is unavailable, and takes no calls then. -/
theorem reported_connection_lost :
    let plugin := Plugin.ofAnswers [] [.error ⟨.unavailable, "plugin is restarting"⟩] []
    let settings := (Settings.new "gpu" "/run/gpu.sock").withDefaults
    let r := ((⟨settings, .inProcess, .empty, plugin, none⟩ : Beginning).scene.run []).relay
    r.connect.1 = .ok () ∧ r.connect.2.connection.session = some 0 ∧
      r.connect.2.isConnected = false := by
  intro plugin settings r
  have hok : r.connect.1 = .ok () := rfl
  exact ⟨hok, rfl, by decide⟩

end HealthRelay
