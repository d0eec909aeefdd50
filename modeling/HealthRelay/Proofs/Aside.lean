import HealthRelay.Proofs.Frame

/-!
What neither polls the plugin nor passes on a report: it leaves the numbers of both alone, and the
health checks that the plugin got.
-/
namespace HealthRelay

variable {l : Link} {r r' r'' : Relay} {id : Nat} {α : Type}

namespace Plugin

/-- The number and the parameters of a health check. -/
def Request.check? : Request → Option (Int × Table String)
  | .checkHealth sequence parameters => some (sequence, parameters)
  | .getMetadata | .stop => none

/-- The health checks that reached the plugin, the first one first. -/
def checks (p : Plugin) : List (Int × Table String) := p.received.reverse.filterMap Request.check?

theorem checks_checkHealth (p : Plugin) (sequence : Int) (parameters : Table String) :
    (p.checkHealth sequence parameters).2.checks = p.checks ++ [(sequence, parameters)] := by
  simp [checks, checkHealth, Request.check?]

theorem checks_getMetadata (p : Plugin) : p.getMetadata.2.checks = p.checks := by
  simp [checks, getMetadata, Request.check?]

end Plugin

namespace Link

/-- Every session has the plugin at its other end. -/
def Attached (l : Link) : Prop := ∀ session ∈ l.sessions, session.attached = true

theorem Attached.updateSession (h : l.Attached) {f : Session → Session}
    (hf : ∀ session, session.attached = true → (f session).attached = true) :
    (l.updateSession id f).Attached := by
  intro session hmem
  obtain ⟨k, hk⟩ := List.mem_iff_getElem?.1 hmem
  rw [Link.updateSession, List.getElem?_modify] at hk
  obtain ⟨before, hbefore, rfl⟩ := Option.map_eq_some_iff.1 hk
  have hattached : before.attached = true := h before (List.mem_of_getElem? hbefore)
  split
  · exact hf before hattached
  · exact hattached

theorem Attached.call (h : l.Attached) {operation : String}
    {ask : Plugin → Except Refusal α × Plugin} : (l.call id operation ask).2.Attached := by
  rw [Link.call]
  split
  · exact h
  · split
    · exact h
    · apply Attached.updateSession
      · exact h
      · intro session hsession
        simp [hsession]

/-- Only what is asked through a session gets to the plugin. -/
theorem plugin_call (l : Link) (id : Nat) (operation : String)
    (ask : Plugin → Except Refusal α × Plugin) :
    (l.call id operation ask).2.plugin = l.plugin ∨
      (l.call id operation ask).2.plugin = (ask l.plugin).2 := by
  rw [call]
  split
  · exact .inl rfl
  · split
    · exact .inl rfl
    · simp only [exchange]
      split
      · exact .inr rfl
      · exact .inl rfl

theorem checks_getMetadata (l : Link) (id : Nat) :
    (l.getMetadata id).2.plugin.checks = l.plugin.checks := by
  obtain heq | heq := l.plugin_call id getMetadataOperation Plugin.getMetadata
  · rw [getMetadata, heq]
  · rw [getMetadata, heq, Plugin.checks_getMetadata]

/-- What is asked through a session that takes calls does get to the plugin. -/
theorem plugin_call_of_isLive (hattached : l.Attached) (hlive : l.isLive id = true)
    (operation : String) (ask : Plugin → Except Refusal α × Plugin) :
    (l.call id operation ask).2.plugin = (ask l.plugin).2 := by
  rw [isLive, state?, Option.any_map, Option.any_eq_true] at hlive
  obtain ⟨session, hsession, hstate⟩ := hlive
  have hopen : session.state.refusal? l.transport = none := by
    cases h : session.state <;> simp_all [ChannelState.isLive, ChannelState.refusal?]
  have hthere : session.attached = true := hattached session (List.mem_of_getElem? hsession)
  simp [call, hsession, hopen, exchange, hthere, updateSession]

theorem checks_checkHealth (hattached : l.Attached) (hlive : l.isLive id = true) (sequence : Int)
    (parameters : Table String) :
    (l.checkHealth id sequence parameters).2.plugin.checks =
      l.plugin.checks ++ [(sequence, parameters)] := by
  rw [checkHealth, plugin_call_of_isLive hattached hlive, Plugin.checks_checkHealth]

end Link

namespace Relay

/-- No health check has been made from one relay to the next. -/
structure Unasked (r r' : Relay) : Prop where
  settings : r'.settings = r.settings
  sequence : r'.sequence = r.sequence
  checks : r'.link.plugin.checks = r.link.plugin.checks
  attached : r.link.Attached → r'.link.Attached

theorem Unasked.refl (r : Relay) : Unasked r r := ⟨rfl, rfl, rfl, id⟩

theorem Unasked.trans (h : Unasked r r') (h' : Unasked r' r'') : Unasked r r'' where
  settings := h'.settings.trans h.settings
  sequence := h'.sequence.trans h.sequence
  checks := h'.checks.trans h.checks
  attached hattached := h'.attached (h.attached hattached)

/-- Nor has a report been dropped. -/
structure Aside (r r' : Relay) : Prop extends Unasked r r' where
  dropped : r'.dropped = r.dropped

theorem Aside.refl (r : Relay) : Aside r r := ⟨.refl r, rfl⟩

theorem Aside.trans (h : Aside r r') (h' : Aside r' r'') : Aside r r'' :=
  ⟨h.toUnasked.trans h'.toUnasked, h'.dropped.trans h.dropped⟩

theorem plugin_closeSession (r : Relay) : r.closeSession.link.plugin = r.link.plugin := by
  cases h : r.connection.session <;> simp [closeSession, h, Link.close, Link.updateSession]

theorem aside_closeSession (r : Relay) : Aside r r.closeSession := by
  refine ⟨⟨rfl, rfl, congrArg Plugin.checks r.plugin_closeSession, ?_⟩, rfl⟩
  intro hattached
  cases h : r.connection.session with
  | none => simpa [closeSession, h] using hattached
  | some id =>
    simp only [closeSession, h, Option.elim_some]
    exact hattached.updateSession fun _ h => h

theorem aside_connect (r : Relay) : Aside r r.connect.2 := by
  have hclose := r.aside_closeSession
  obtain ⟨e, -, heq⟩ | ⟨id, link, identity, journal, hdial, heq⟩ := r.connect_cases
  · rw [heq]
    exact hclose
  · rw [heq]
    rw [Link.dial] at hdial
    split at hdial
    · cases hdial
    · cases hdial
      refine ⟨⟨rfl, rfl, ?_, ?_⟩, rfl⟩
      · rw [Link.checks_getMetadata]
        exact hclose.checks
      · intro hattached
        apply Link.Attached.call
        intro session hmem
        rcases List.mem_append.1 hmem with hmem | hmem
        · exact hclose.attached hattached session hmem
        · rw [List.mem_singleton.1 hmem]

theorem aside_beginAttempt (r : Relay) (now : Nat) : Aside r (r.beginAttempt now).2 := by
  obtain ⟨-, heq⟩ | ⟨-, -, heq⟩ | ⟨-, -, -, journal, heq⟩ | ⟨-, -, -, journal, heq⟩ :=
    r.beginAttempt_cases now <;> rw [heq] <;> exact ⟨⟨rfl, rfl, rfl, id⟩, rfl⟩

theorem aside_wakeAttempt (r : Relay) : Aside r r.wakeAttempt.2 := by
  have hconnect := r.aside_connect
  obtain heq | ⟨journal, heq⟩ | ⟨e, journal, -, heq⟩ | ⟨journal, -, heq⟩ := r.wakeAttempt_cases <;>
    rw [heq]
  · exact .refl r
  · exact ⟨⟨rfl, rfl, rfl, id⟩, rfl⟩
  · exact hconnect.trans ⟨⟨rfl, rfl, rfl, id⟩, rfl⟩
  · exact hconnect.trans ⟨⟨rfl, rfl, rfl, id⟩, rfl⟩

theorem aside_recordFailure (r : Relay) (e : CallError) : Aside r (r.recordFailure e).2 := by
  obtain ⟨journal, heq⟩ := r.recordFailure_eq e
  rw [heq]
  exact ⟨⟨rfl, rfl, rfl, id⟩, rfl⟩

theorem aside_sever (r : Relay) : Aside r { r with link := r.link.sever } := by
  refine ⟨⟨rfl, rfl, ?_, ?_⟩, rfl⟩
  · simp only [Link.sever]
    split <;> rfl
  · intro hattached
    simp only [Link.sever]
    split
    · intro session hmem
      obtain ⟨before, hbefore, rfl⟩ := List.mem_map.1 hmem
      exact hattached before hbefore
    · exact hattached

theorem aside_attemptReconnection (r : Relay) (now : Nat) :
    Aside r (r.attemptReconnection now).2 := by
  have hbegin := r.aside_beginAttempt now
  rw [attemptReconnection]
  rcases h : r.beginAttempt now with ⟨outcome | delay, r'⟩ <;> rw [h] at hbegin
  · exact hbegin
  · exact (hbegin.trans r'.aside_wakeAttempt).trans ⟨⟨rfl, rfl, rfl, id⟩, rfl⟩

theorem aside_handleFailure (r : Relay) (now : Nat) (e : CallError) :
    Aside r (r.handleFailure now e) := by
  rw [handleFailure_eq_ite]
  split
  · exact (r.aside_recordFailure e).trans (aside_attemptReconnection _ now)
  · exact r.aside_recordFailure e

theorem aside_beginFailure (r : Relay) (now : Nat) (e : CallError) :
    Aside r (r.beginFailure now e).2 := by
  rw [beginFailure_snd_eq_ite]
  split
  · exact (r.aside_recordFailure e).trans (aside_beginAttempt _ now)
  · exact r.aside_recordFailure e

end Relay

end HealthRelay
