import HealthRelay.Proofs.Aside
import HealthRelay.Proofs.Ownership

/-!
Opening a session in place of the one held: what may be in the way, and what the first answer of the
plugin means for the session and for who is taken to be at the other end.
-/
namespace HealthRelay

variable {l : Link} {r : Relay} {endpoint : String} {e : ConnectError} {α : Type}

namespace Link

/-- What a plugin answers when it is asked who it is on a session just opened. -/
def greeting (l : Link) : Except Refusal Plugin.Metadata :=
  l.transport.deliver l.plugin.metadata.next

/-- A session just opened, with that answer. -/
def freshSession (endpoint : String) (l : Link) : Session where
  endpoint := endpoint
  state := ChannelState.idle.settle l.transport (Refusal.code? l.greeting)
  attached := true

/-- With a session just opened, on which the plugin has been asked who it is. -/
def greeted (endpoint : String) (l : Link) : Link :=
  { l with
    sessions := l.sessions ++ [l.freshSession endpoint]
    plugin := l.plugin.getMetadata.2 }

theorem dial_of_obstacle (h : l.obstacle? endpoint = some e) : l.dial endpoint = .error e := by
  rw [dial, h]

theorem dial_of_no_obstacle (h : l.obstacle? endpoint = none) :
    l.dial endpoint =
      .ok (l.openCount, { l with sessions := l.sessions ++ [⟨endpoint, .idle, true⟩] }) := by
  rw [dial, h]
  rfl

/-- The first question on a session just opened gets to the plugin. -/
theorem getMetadata_dialed (l : Link) (endpoint : String) :
    ({ l with sessions := l.sessions ++ [⟨endpoint, .idle, true⟩] } : Link).getMetadata
        l.openCount =
      (l.greeting.mapError (.ofRefusal getMetadataOperation), l.greeted endpoint) := by
  have hmodify (f : Session → Session) (s : Session) :
      (l.sessions ++ [s]).modify l.sessions.length f = l.sessions ++ [f s] :=
    List.modifyTailIdx_add (List.modifyHead f) 0 l.sessions [s]
  simp [getMetadata, call, openCount, exchange, ChannelState.refusal?, updateSession, hmodify,
    greeting, greeted, freshSession, Plugin.getMetadata]

theorem openCount_greeted : (l.greeted endpoint).openCount = l.openCount + 1 := by
  simp [greeted, openCount]

/-- The sessions opened before stay as they were. -/
theorem getElem?_greeted {id : Nat} (h : id < l.openCount) :
    (l.greeted endpoint).sessions[id]? = l.sessions[id]? := List.getElem?_append_left h

theorem state?_greeted :
    (l.greeted endpoint).state? l.openCount = some (l.freshSession endpoint).state := by
  simp [greeted, state?, openCount]

end Link

theorem Transport.code?_deliver_eq_unavailable_iff {transport : Transport}
    {answer : Except Refusal α} :
    Refusal.code? (transport.deliver answer) = some .unavailable ↔
      Refusal.code? answer = some .unavailable := by
  rcases answer with ⟨code, message⟩ | a
  · cases code <;> cases transport <;> simp [deliver, Refusal.code?]
  · rfl

theorem ChannelState.isLive_settle_idle (transport : Transport) (code : Option StatusCode) :
    (ChannelState.idle.settle transport code).isLive = true ↔ code ≠ some .unavailable := by
  rcases code with _ | code
  · simp [settle, isLive]
  · cases code <;> cases transport <;> simp [settle, isLive]

/-- A session just opened takes calls unless the plugin has answered that it is unavailable. -/
theorem Link.isLive_greeted :
    (l.greeted endpoint).isLive l.openCount = true ↔
      Refusal.code? l.plugin.metadata.next ≠ some .unavailable := by
  rw [isLive, state?_greeted, Option.any_some, freshSession, ChannelState.isLive_settle_idle,
    greeting, ne_eq, Transport.code?_deliver_eq_unavailable_iff]

namespace Relay

/-- Closing the session held clears nothing out of the way. -/
theorem obstacle?_closeSession (r : Relay) (endpoint : String) :
    r.closeSession.link.obstacle? endpoint = r.link.obstacle? endpoint := by
  cases h : r.connection.session <;> simp only [closeSession, h] <;> rfl

theorem greeting_closeSession (r : Relay) : r.closeSession.link.greeting = r.link.greeting := by
  cases h : r.connection.session <;> simp only [closeSession, h] <;> rfl

/-- Who is at the other end of a session opened now, if the plugin says. -/
def caller? (r : Relay) : Option Identity :=
  r.link.greeting.toOption.map (Identity.ofMetadata r.name r.endpoint)

theorem connect_of_obstacle (h : r.link.obstacle? r.endpoint = some e) :
    r.connect = (.error e, r.closeSession) := by
  have hobstacle : r.closeSession.link.obstacle? r.endpoint = some e := by
    rw [obstacle?_closeSession, h]
  exact connect_of_dial_error (Link.dial_of_obstacle hobstacle)

theorem connect_of_no_obstacle (h : r.link.obstacle? r.endpoint = none) :
    ∃ journal, r.connect = (.ok (), { r with
      link := r.closeSession.link.greeted r.endpoint
      connection := { r.connection.install r.link.openCount with identity := r.caller? }
      journal := journal }) := by
  have hclear : r.closeSession.link.obstacle? r.endpoint = none := by
    rw [obstacle?_closeSession, h]
  obtain ⟨journal, heq⟩ := connect_of_dial_ok (Link.dial_of_no_obstacle hclear)
  refine ⟨journal, ?_⟩
  have hanswer : (r.closeSession.link.greeting.mapError
      (CallError.ofRefusal getMetadataOperation)).toOption = r.link.greeting.toOption := by
    rw [greeting_closeSession]
    cases r.link.greeting <;> rfl
  rw [heq, Link.getMetadata_dialed, openCount_closeSession, hanswer]
  rfl

theorem connect_snd_of_error (h : r.connect.1 = .error e) : r.connect.2 = r.closeSession := by
  cases hobstacle : r.link.obstacle? r.endpoint with
  | some e' => rw [connect_of_obstacle hobstacle]
  | none =>
    obtain ⟨journal, heq⟩ := connect_of_no_obstacle hobstacle
    rw [heq] at h
    cases h

theorem connect_snd_of_ok (h : r.connect.1 = .ok ()) :
    ∃ journal, r.connect.2 = { r with
      link := r.closeSession.link.greeted r.endpoint
      connection := { r.connection.install r.link.openCount with identity := r.caller? }
      journal := journal } := by
  cases hobstacle : r.link.obstacle? r.endpoint with
  | some e =>
    rw [connect_of_obstacle hobstacle] at h
    cases h
  | none =>
    obtain ⟨journal, heq⟩ := connect_of_no_obstacle hobstacle
    exact ⟨journal, by rw [heq]⟩

end Relay

end HealthRelay
