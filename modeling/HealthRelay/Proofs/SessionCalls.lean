import HealthRelay.Link

/-!
The calls through a session taken together: what they ask for, what comes of them, and the two steps
that each is made of. A call starts, unless the session refuses it; and it comes to its end.
-/
namespace HealthRelay

variable {α : Type} {l : Link} {id : Nat} {name detail : String} {session : Session}
  {ask : Plugin → Except Refusal α × Plugin} {q : Plugin.Request}

namespace Plugin

/-- The name of the call that makes the request. -/
def Request.operation : Request → String
  | .checkHealth _ _ => checkHealthOperation
  | .getMetadata => getMetadataOperation
  | .stop => stopOperation

/-- The plugin gets a request. -/
def hear (p : Plugin) : Request → Plugin
  | .checkHealth sequence parameters => (p.checkHealth sequence parameters).2
  | .getMetadata => p.getMetadata.2
  | .stop => p.stop.2

end Plugin

/-- What comes of a call. -/
inductive Reply where
  | report (answer : Except CallError Plugin.Report)
  | metadata (answer : Except CallError Plugin.Metadata)
  | stopped (answer : Except CallError Unit)

/-- The failure of a call, if it failed. -/
def CallError.of? : Except CallError α → Option CallError
  | .ok _ => none
  | .error e => some e

def Reply.error? : Reply → Option CallError
  | .report answer => CallError.of? answer
  | .metadata answer => CallError.of? answer
  | .stopped answer => CallError.of? answer

namespace Link

/-- Makes the call for a request. -/
def request (id : Nat) (l : Link) : Plugin.Request → Reply × Link
  | .checkHealth sequence parameters =>
    let (answer, l) := l.checkHealth id sequence parameters
    (.report answer, l)
  | .getMetadata =>
    let (answer, l) := l.getMetadata id
    (.metadata answer, l)
  | .stop =>
    let (answer, l) := l.stop id
    (.stopped answer, l)

/-- Why a call through a session does not start. -/
def refusal? (l : Link) (id : Nat) : Option String :=
  match l.sessions[id]? with
  | none => some "session closed"
  | some s => s.state.refusal? l.transport

/-- The request of a call that has started goes out. It gets to the plugin if that is there. -/
def convey (id : Nat) (q : Plugin.Request) (l : Link) : Link :=
  match l.sessions[id]? with
  | none => l
  | some s =>
    let there := s.attached || l.isListening s.endpoint
    { l with plugin := if there then l.plugin.hear q else l.plugin }.updateSession id
      fun s => { s with attached := there }

/-- A call through a session has come to its end, with success or with a code. -/
def settle (id : Nat) (code : Option StatusCode) (l : Link) : Link :=
  l.updateSession id fun s => { s with state := s.state.settle l.transport code }

theorem updateSession_updateSession (l : Link) (id : Nat) (f g : Session → Session) :
    (l.updateSession id f).updateSession id g = l.updateSession id (g ∘ f) := by
  simp [updateSession, List.modify_modify_eq]

/-- A change to a session may go by what the session was. -/
theorem updateSession_congr {f g : Session → Session} (h : l.sessions[id]? = some session)
    (hfg : f session = g session) : l.updateSession id f = l.updateSession id g := by
  have hsessions : l.sessions.modify id f = l.sessions.modify id g := by
    apply List.ext_getElem?
    intro k
    rw [List.getElem?_modify, List.getElem?_modify]
    by_cases hk : id = k
    · subst k
      simp [h, hfg]
    · simp [hk]
  rw [updateSession, updateSession, hsessions]

/-- A call that does not start changes nothing. -/
theorem call_of_refusal (h : l.refusal? id = some detail) :
    l.call id name ask = (.error ⟨name, .unavailable, detail⟩, l) := by
  rw [refusal?] at h
  rw [call]
  rcases hsession : l.sessions[id]? with _ | s <;> rw [hsession] at h
  · rw [Option.some.inj h]
  · simp only [h]

theorem closed_close (h : id < l.openCount) : (l.close id).state? id = some .closed := by
  have hsession : l.sessions[id]? = some l.sessions[id] := List.getElem?_eq_getElem h
  simp [state?, close, updateSession, hsession]

theorem isLive_of_closed (h : l.state? id = some .closed) : l.isLive id = false := by
  rw [isLive, h]
  rfl

theorem refusal?_of_closed (h : l.state? id = some .closed) :
    l.refusal? id = some "session closed" := by
  obtain ⟨s, hsession, hstate⟩ := Option.map_eq_some_iff.1 h
  simp only [refusal?, hsession, hstate]
  rfl

theorem exists_session_of_no_refusal (h : l.refusal? id = none) :
    ∃ s, l.sessions[id]? = some s ∧ s.state.refusal? l.transport = none := by
  rw [refusal?] at h
  rcases hsession : l.sessions[id]? with _ | s <;> rw [hsession] at h
  · cases h
  · exact ⟨s, rfl, h⟩

/-- A call that starts sends its request out, and then comes to an end by which the session is known
from then on. -/
theorem call_of_no_refusal (h : l.refusal? id = none) (hask : (ask l.plugin).2 = l.plugin.hear q) :
    ∃ failure : Option Refusal,
      CallError.of? (l.call id name ask).1 = failure.map (.ofRefusal name) ∧
      (l.call id name ask).2 = (l.convey id q).settle id (failure.map Refusal.code) := by
  obtain ⟨s, hsession, hopen⟩ := exists_session_of_no_refusal h
  have hplugin : (l.exchange s ask).2 =
      if s.attached || l.isListening s.endpoint then l.plugin.hear q else l.plugin := by
    rw [exchange]
    split
    · exact hask
    · rfl
  simp only [call, hsession, hopen, convey, settle, updateSession_updateSession, hplugin]
  rcases (l.exchange s ask).1 with r | answer
  · exact ⟨some r, rfl, updateSession_congr hsession rfl⟩
  · exact ⟨none, rfl, updateSession_congr hsession rfl⟩

theorem request_of_refusal (h : l.refusal? id = some detail) (q : Plugin.Request) :
    (l.request id q).1.error? = some ⟨q.operation, .unavailable, detail⟩ ∧
      (l.request id q).2 = l := by
  cases q <;> simp only [request, checkHealth, getMetadata, stop, call_of_refusal h] <;>
    exact ⟨rfl, trivial⟩

theorem request_of_no_refusal (h : l.refusal? id = none) (q : Plugin.Request) :
    ∃ failure : Option Refusal,
      (l.request id q).1.error? = failure.map (.ofRefusal q.operation) ∧
      (l.request id q).2 = (l.convey id q).settle id (failure.map Refusal.code) := by
  cases q with
  | checkHealth sequence parameters =>
    exact @call_of_no_refusal _ l id _ (Plugin.checkHealth sequence parameters)
      (.checkHealth sequence parameters) h rfl
  | getMetadata => exact @call_of_no_refusal _ l id _ Plugin.getMetadata .getMetadata h rfl
  | stop => exact @call_of_no_refusal _ l id _ Plugin.stop .stop h rfl

end Link

end HealthRelay
