import HealthRelay.Proofs.Outcomes

/-!
Who is taken to be at the other end: whoever answered on the session opened last.

A plugin is asked who it is once for each session, right when it is opened, so the answer that
counts is found by the number of sessions opened so far.
-/
namespace HealthRelay

variable {s t : Scene} {r r' r'' : Relay} {now : Nat} {b : Beginning}

namespace Plugin

namespace Script

variable {α : Type}

/-- The answers after the first `n`. -/
def after (s : Script α) : Nat → Script α
  | 0 => s
  | n + 1 => (s.after n).advance

/-- The answer to the question with this number, counted from zero. -/
def answer (s : Script α) (n : Nat) : α := (s.after n).next

end Script

/-- How often the plugin has been asked who it is. -/
def introductions (p : Plugin) : Nat := p.received.count .getMetadata

theorem introductions_getMetadata (p : Plugin) :
    p.getMetadata.2.introductions = p.introductions + 1 := by
  simp [introductions, getMetadata]

end Plugin

theorem Transport.toOption_deliver {α : Type} (transport : Transport)
    (answer : Except Refusal α) : (transport.deliver answer).toOption = answer.toOption := by
  rcases answer with ⟨code, message⟩ | a
  · cases code <;> cases transport <;> rfl
  · rfl

namespace Link

variable {l : Link}

/-- What counts for who is at the other end: the sessions opened, what the plugin was asked and what
it will answer. -/
structure Unopened (l l' : Link) : Prop where
  openCount : l'.openCount = l.openCount
  metadata : l'.plugin.metadata = l.plugin.metadata
  introductions : l'.plugin.introductions = l.plugin.introductions

theorem Unopened.refl (l : Link) : Unopened l l := ⟨rfl, rfl, rfl⟩

theorem Unopened.of_plugin {l' : Link} (hcount : l'.openCount = l.openCount)
    (hplugin : l'.plugin = l.plugin) : Unopened l l' :=
  ⟨hcount, congrArg Plugin.metadata hplugin, congrArg Plugin.introductions hplugin⟩

/-- A health check is another question. -/
theorem unopened_checkHealth (l : Link) (id : Nat) (sequence : Int) (parameters : Table String) :
    Unopened l (l.checkHealth id sequence parameters).2 := by
  have hcount : (l.checkHealth id sequence parameters).2.openCount = l.openCount := openCount_call
  obtain heq | heq := l.plugin_call id checkHealthOperation (Plugin.checkHealth sequence parameters)
  · exact .of_plugin hcount heq
  · have hasked : (l.checkHealth id sequence parameters).2.plugin = _ := heq
    refine ⟨hcount, ?_, ?_⟩ <;> rw [hasked]
    · rfl
    · simp [Plugin.introductions, Plugin.checkHealth]

theorem unopened_sever (l : Link) : Unopened l l.sever := by
  refine .of_plugin openCount_sever ?_
  rw [sever]
  split <;> rfl

end Link

namespace Relay

/-- What a step means for who is taken to be at the other end. -/
inductive Introduction (r t : Relay) : Prop where
  | none (unopened : r.link.Unopened t.link)
      (identity : t.connection.identity = r.connection.identity)
  | opened (openCount : t.link.openCount = r.link.openCount + 1)
      (metadata : t.link.plugin.metadata = r.link.plugin.metadata.advance)
      (introductions : t.link.plugin.introductions = r.link.plugin.introductions + 1)
      (identity : t.connection.identity =
        r.link.plugin.metadata.next.toOption.map (Identity.ofMetadata r.name r.endpoint))

theorem Introduction.frame (h : Introduction r r') (hlink : r''.link = r'.link)
    (hidentity : r''.connection.identity = r'.connection.identity) : Introduction r r'' := by
  cases h with
  | none hunopened hsame => exact .none (hlink ▸ hunopened) (hidentity.trans hsame)
  | opened hcount hmetadata hintroductions hanswer =>
    refine .opened ?_ ?_ ?_ (hidentity.trans hanswer) <;> rw [hlink]
    · exact hcount
    · exact hmetadata
    · exact hintroductions

theorem Introduction.refl (r : Relay) : Introduction r r := .none (.refl r.link) rfl

theorem introduction_closeSession (r : Relay) : Introduction r r.closeSession :=
  .none (.of_plugin r.openCount_closeSession r.plugin_closeSession) rfl

theorem introduction_connect (r : Relay) : Introduction r r.connect.2 := by
  cases hobstacle : r.link.obstacle? r.endpoint with
  | some e =>
    rw [connect_of_obstacle hobstacle]
    exact r.introduction_closeSession
  | none =>
    obtain ⟨journal, heq⟩ := connect_of_no_obstacle hobstacle
    rw [heq]
    refine .opened ?_ ?_ ?_ ?_
    · rw [Link.openCount_greeted, openCount_closeSession]
    · rw [Link.greeted, plugin_closeSession]
      rfl
    · rw [Link.greeted, plugin_closeSession]
      exact Plugin.introductions_getMetadata _
    · change r.caller? = _
      rw [caller?, Link.greeting, Transport.toOption_deliver]

theorem introduction_wakeAttempt (r : Relay) : Introduction r r.wakeAttempt.2 := by
  obtain heq | ⟨journal, heq⟩ | ⟨e, journal, -, heq⟩ | ⟨journal, -, heq⟩ := r.wakeAttempt_cases <;>
    rw [heq]
  · exact .refl r
  · exact (Introduction.refl r).frame rfl rfl
  · exact r.introduction_connect.frame rfl rfl
  · exact r.introduction_connect.frame rfl rfl

theorem introduction_recordFailure (r : Relay) (e : CallError) :
    Introduction r (r.recordFailure e).2 := by
  refine (Introduction.refl r).frame recordFailure_link ?_
  rw [recordFailure_connection]
  split <;> rfl

theorem introduction_beginAttempt (r : Relay) (now : Nat) :
    Introduction r (r.beginAttempt now).2 := by
  obtain ⟨-, heq⟩ | ⟨-, -, heq⟩ | ⟨-, -, -, journal, heq⟩ | ⟨-, -, -, journal, heq⟩ :=
    r.beginAttempt_cases now <;> rw [heq] <;> exact (Introduction.refl r).frame rfl rfl

end Relay

namespace Scene

theorem introduction_step (h : Step s t) : s.relay.Introduction t.relay := by
  cases h with
  | connect => exact s.relay.introduction_connect
  | closeSession => exact s.relay.introduction_closeSession
  | recordFailure e => exact s.relay.introduction_recordFailure e
  | beginAttempt now => exact s.relay.introduction_beginAttempt now
  | wake h => exact s.relay.introduction_wakeAttempt
  | ask h =>
    obtain ⟨session, link, -, hcall, rfl⟩ := Relay.ask?_eq_some h
    have hlink : (s.relay.link.checkHealth session _ _).2 = link := congrArg Prod.snd hcall
    exact .none (hlink ▸ s.relay.link.unopened_checkHealth session _ _) rfl
  | emit status =>
    obtain ⟨dropped, journal, hrelay⟩ := s.emit_relay status
    rw [hrelay]
    exact (Relay.Introduction.refl s.relay).frame rfl rfl
  | sever => exact .none s.relay.link.unopened_sever rfl
  | setReachable | setFiles => exact .none (.of_plugin rfl rfl) rfl
  | take =>
    rw [take_relay]
    exact .refl s.relay
  | remark | recordSuccess | finish | signal | leave | retire =>
    exact (Relay.Introduction.refl s.relay).frame rfl rfl

end Scene

/-- Who is at the other end when so many sessions have been opened: nobody without a session, else
whoever answered on the last one. -/
def Beginning.identity? (b : Beginning) : Nat → Option Identity
  | 0 => none
  | n + 1 => (b.plugin.metadata.answer n).toOption.map
      (Identity.ofMetadata b.settings.source b.settings.pluginSettings.socketAddress)

namespace Scene

/-- The plugin has been asked who it is once for each session, and the last answer is held. -/
structure Introduced (b : Beginning) (s : Scene) : Prop where
  settings : s.relay.settings = b.settings
  metadata : s.relay.link.plugin.metadata = b.plugin.metadata.after s.relay.link.openCount
  introductions : s.relay.link.plugin.introductions =
    b.plugin.introductions + s.relay.link.openCount
  identity : s.relay.connection.identity = b.identity? s.relay.link.openCount

theorem introduced_step (h : Step s t) (hs : Introduced b s) : Introduced b t := by
  have hsettings : t.relay.settings = b.settings := (settings_step h).trans hs.settings
  cases introduction_step h with
  | none hunopened hidentity =>
    refine ⟨hsettings, ?_, ?_, ?_⟩
    · rw [hunopened.metadata, hunopened.openCount, hs.metadata]
    · rw [hunopened.introductions, hunopened.openCount, hs.introductions]
    · rw [hidentity, hunopened.openCount, hs.identity]
  | opened hcount hmetadata hintroductions hidentity =>
    refine ⟨hsettings, ?_, ?_, ?_⟩
    · rw [hmetadata, hcount, hs.metadata]
      rfl
    · rw [hintroductions, hcount, hs.introductions]
      rfl
    · rw [hidentity, hcount, hs.metadata, Relay.name, Relay.endpoint, hs.settings]
      rfl

theorem introduced_initial (b : Beginning) : Introduced b b.scene := ⟨rfl, rfl, rfl, rfl⟩

theorem introduced_run (b : Beginning) (actions : List Action) :
    Introduced b (b.scene.run actions) :=
  (steps_run b.scene actions).keep introduced_step (introduced_initial b)

/-- A session opened now has the next place, and the plugin gives the answer of that number
on it. -/
theorem Introduced.answer (hs : Introduced b s) {id : Nat} {link : Link}
    (hdial : s.relay.closeSession.link.dial s.relay.endpoint = .ok (id, link)) :
    id = s.relay.link.openCount ∧
      (link.getMetadata id).1.toOption = (b.plugin.metadata.answer id).toOption := by
  cases hobstacle : s.relay.closeSession.link.obstacle? s.relay.endpoint with
  | some e =>
    rw [Link.dial_of_obstacle hobstacle] at hdial
    cases hdial
  | none =>
    rw [Link.dial_of_no_obstacle hobstacle] at hdial
    obtain ⟨rfl, rfl⟩ := Prod.mk.inj (Except.ok.inj hdial)
    refine ⟨s.relay.openCount_closeSession, ?_⟩
    have hmapError (answer : Except Refusal Plugin.Metadata) (f : Refusal → CallError) :
        (answer.mapError f).toOption = answer.toOption := by
      cases answer <;> rfl
    rw [Link.getMetadata_dialed, hmapError, Relay.greeting_closeSession, Link.greeting,
      Transport.toOption_deliver, hs.metadata, s.relay.openCount_closeSession]
    rfl

end Scene

/-- An attempt that opens no session leaves who is taken to be at the other end. -/
theorem Relay.Attempted.identity {w : Surroundings} {outcome : Outcome}
    (h : r.Attempted w now r' outcome) (hfailed : outcome ≠ .connected) :
    r'.connection.identity = r.connection.identity := by
  cases outcome with
  | debounced | inProgress => rw [h]
  | gaveUp | interrupted | endpointMissing | failed =>
    obtain ⟨journal, rfl⟩ := h
    rfl
  | connected => exact absurd rfl hfailed

/-- Whatever is done in whatever order, the identity held is that of the plugin which answered on
the session opened last: nobody without a session, and nobody when the answer was an error. The
plugin is asked once for each session, and gives the answer with the number of its place there.
What opens no session leaves the identity. -/
theorem identity_of_last_session (b : Beginning) (actions : List Action) :
    let s := b.scene.run actions
    let r := s.relay
    (r.link.openCount = 0 → r.connection.identity = none) ∧
    (∀ n, r.link.openCount = n + 1 →
      (∀ m, b.plugin.metadata.answer n = .ok m →
        r.connection.identity =
          some (.ofMetadata b.settings.source b.settings.pluginSettings.socketAddress m)) ∧
      (∀ e, b.plugin.metadata.answer n = .error e → r.connection.identity = none)) ∧
    (∀ id link, r.closeSession.link.dial r.endpoint = .ok (id, link) →
      id = r.link.openCount ∧
      (link.getMetadata id).1.toOption = (b.plugin.metadata.answer id).toOption) ∧
    r.link.plugin.introductions = b.plugin.introductions + r.link.openCount ∧
    (∀ a, (s.perform a).relay.link.openCount = r.link.openCount →
      (s.perform a).relay.connection.identity = r.connection.identity) ∧
    (∀ w now, (r.attemptWithin w now).1 ≠ .connected →
      (r.attemptWithin w now).2.connection.identity = r.connection.identity) ∧
    r.closeSession.connection.identity = r.connection.identity := by
  intro s r
  have hs : Scene.Introduced b s := Scene.introduced_run b actions
  refine ⟨?_, ?_, fun _ _ => hs.answer, hs.introductions, ?_, ?_, rfl⟩
  · intro hnone
    rw [hs.identity, hnone]
    rfl
  · intro n hcount
    have hidentity : r.connection.identity = b.identity? (n + 1) := hcount ▸ hs.identity
    constructor
    · intro m hanswer
      rw [hidentity, Beginning.identity?, hanswer]
      rfl
    · intro e hanswer
      rw [hidentity, Beginning.identity?, hanswer]
      rfl
  · intro a hcount
    have ht : Scene.Introduced b (s.perform a) :=
      (Scene.steps_perform s a).keep Scene.introduced_step hs
    rw [ht.identity, hcount, hs.identity]
  · intro w now hfailed
    exact (r.attempted_attemptWithin w now).identity hfailed

end HealthRelay
