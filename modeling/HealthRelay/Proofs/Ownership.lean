import HealthRelay.Proofs.Frame
import Mathlib.Data.Bool.Count

/-!
Who answers for the sessions: the relay holds the only session that is not closed, if there is one.
-/
namespace HealthRelay

variable {l : Link} {r r' : Relay} {s t : Scene} {id n : Nat} {α : Type}

namespace ChannelState

theorem settle_eq_closed_iff {transport : Transport} {code : Option StatusCode}
    {state : ChannelState} : state.settle transport code = .closed ↔ state = .closed := by
  cases state with
  | closed => simp [settle]
  | idle | ready | failing =>
    cases transport <;> rcases code with _ | code <;> try cases code
    all_goals simp [settle]

theorem sever_eq_closed_iff {state : ChannelState} : state.sever = .closed ↔ state = .closed := by
  cases state <;> simp [sever]

end ChannelState

namespace Link

/-- For each session, whether it has not been closed. -/
def marks (l : Link) : List Bool := l.sessions.map fun s => decide (s.state ≠ .closed)

theorem marks_new {transport : Transport} {files : FileTree} {plugin : Plugin} :
    (new transport files plugin).marks = [] := rfl

theorem marks_getElem? :
    l.marks[id]? = l.sessions[id]?.map fun s => decide (s.state ≠ .closed) := by
  simp [marks]

theorem marks_close : (l.close id).marks = l.marks.set id false := by
  apply List.ext_getElem?
  intro k
  by_cases hk : id = k
  · subst k
    by_cases hlt : id < l.sessions.length <;> simp [marks, close, updateSession, hlt]
  · simp [marks, close, updateSession, hk]

/-- A change that closes nothing and opens nothing leaves the marks. -/
theorem marks_updateSession {f : Session → Session}
    (hf : ∀ s, (f s).state = .closed ↔ s.state = .closed) :
    (l.updateSession id f).marks = l.marks := by
  apply List.ext_getElem?
  intro k
  by_cases hk : id = k
  · subst k
    rcases hs : l.sessions[id]? with _ | s <;> simp [marks, updateSession, hs, hf]
  · simp [marks, updateSession, hk]

/-- A call closes nothing and opens nothing. -/
theorem marks_call {operation : String} {ask : Plugin → Except Refusal α × Plugin} :
    (l.call id operation ask).2.marks = l.marks := by
  rw [call]
  split
  · rfl
  · split
    · rfl
    · exact marks_updateSession fun _ => ChannelState.settle_eq_closed_iff

theorem marks_sever : l.sever.marks = l.marks := by
  rw [sever, marks, marks]
  split
  · simp [ChannelState.sever_eq_closed_iff]
  · rfl

/-- A session just opened has the next place. -/
theorem marks_dial {endpoint : String} {l' : Link} (h : l.dial endpoint = .ok (id, l')) :
    id = l.marks.length ∧ l'.marks = l.marks ++ [true] := by
  rw [dial] at h
  split at h
  · cases h
  · cases h
    simp [marks]

theorem openCount_eq (l : Link) : l.openCount = l.marks.length := by
  simp [openCount, marks]

theorem openCount_call {operation : String} {ask : Plugin → Except Refusal α × Plugin} :
    (l.call id operation ask).2.openCount = l.openCount := by
  rw [openCount_eq, openCount_eq, marks_call]

theorem openCount_close : (l.close id).openCount = l.openCount := by
  simp [openCount_eq, marks_close]

theorem openCount_sever : l.sever.openCount = l.openCount := by
  rw [openCount_eq, openCount_eq, marks_sever]

end Link

theorem Relay.openCount_closeSession (r : Relay) :
    r.closeSession.link.openCount = r.link.openCount := by
  cases h : r.connection.session with
  | none => simp [closeSession, h]
  | some id => simp [closeSession, h, Link.openCount_close]

namespace Relay

/-- The session held is the only one that is not closed, and a relay that takes its plugin to be
reachable holds one. -/
structure Owned (r : Relay) : Prop where
  open_iff : ∀ id, r.link.marks[id]? = some true ↔ r.connection.session = some id
  held : r.connection.connected = true → r.connection.session.isSome = true

/-- What changes neither the marks nor the session held keeps the account. -/
theorem Owned.frame (h : Owned r) (hm : r'.link.marks = r.link.marks)
    (hs : r'.connection.session = r.connection.session)
    (hc : r'.connection.connected = true → r.connection.connected = true) : Owned r' where
  open_iff id := by rw [hm, hs, h.open_iff]
  held h' := by rw [hs, h.held (hc h')]

theorem Owned.closeSession (h : Owned r) : Owned r.closeSession where
  open_iff k := by
    have hk := h.open_iff k
    cases hs : r.connection.session with
    | none => simpa [Relay.closeSession, Connection.detach, hs] using hk
    | some id =>
      by_cases he : id = k
      · subst k
        have hlt : id < r.link.marks.length := (List.getElem?_eq_some_iff.1 (hk.2 hs)).1
        simp [Relay.closeSession, Connection.detach, hs, Link.marks_close, hlt]
      · have hne : r.link.marks[k]? ≠ some true := by simp [hk, hs, he]
        simpa [Relay.closeSession, Connection.detach, hs, Link.marks_close, he] using hne
  held h' := by simp [Connection.detach] at h'

/-- When no session is held, one that has just been opened can be taken over. -/
theorem Owned.install (h : Owned r) (hnone : r.connection.session = none) {link : Link}
    (hdial : r.link.dial r.endpoint = .ok (n, link)) :
    Owned { r with link := link, connection := r.connection.install n } where
  open_iff k := by
    obtain ⟨rfl, hm⟩ := Link.marks_dial hdial
    have hk : r.link.marks[k]? ≠ some true := by simp [h.open_iff, hnone]
    rcases Nat.lt_trichotomy k r.link.marks.length with hlt | rfl | hgt
    · rw [hm, List.getElem?_append_left hlt]
      simp [Connection.install, hk]
      omega
    · simp [hm, Connection.install]
    · rw [hm, List.getElem?_eq_none (by simp; omega)]
      simp [Connection.install]
      omega
  held _ := rfl

theorem Owned.connect (h : Owned r) : Owned r.connect.2 := by
  obtain ⟨e, -, heq⟩ | ⟨id, link, identity, journal, hdial, heq⟩ := connect_cases r
  · rw [heq]
    exact h.closeSession
  · rw [heq]
    exact (h.closeSession.install rfl hdial).frame Link.marks_call rfl (fun hc => hc)

theorem Owned.recordFailure (h : Owned r) (e : CallError) : Owned (r.recordFailure e).2 := by
  apply h.frame
  · rw [recordFailure_link]
  · rw [recordFailure_connection]
    split <;> rfl
  · rw [recordFailure_connection]
    split
    · intro hc
      exact (Bool.and_eq_true_iff.1 hc).1
    · exact id

theorem Owned.beginAttempt (h : Owned r) (now : Nat) : Owned (r.beginAttempt now).2 := by
  obtain ⟨-, heq⟩ | ⟨-, -, heq⟩ | ⟨-, -, -, journal, heq⟩ | ⟨-, -, -, journal, heq⟩ :=
    beginAttempt_cases r now
  · rwa [heq]
  · rwa [heq]
  · rw [heq]
    exact h.frame rfl rfl id
  · rw [heq]
    exact h.frame rfl rfl id

theorem Owned.wakeAttempt (h : Owned r) : Owned r.wakeAttempt.2 := by
  obtain heq | ⟨journal, heq⟩ | ⟨e, journal, -, heq⟩ | ⟨journal, -, heq⟩ := wakeAttempt_cases r
  · rwa [heq]
  · rw [heq]
    exact h.frame rfl rfl id
  · rw [heq]
    exact h.connect.frame rfl rfl id
  · rw [heq]
    exact h.connect.frame rfl rfl id

theorem Owned.ask (h : Owned r) {answer : Except CallError Plugin.Report}
    (hask : r.ask? = some (answer, r')) : Owned r' := by
  obtain ⟨session, link, -, hcall, rfl⟩ := ask?_eq_some hask
  have hlink : (r.link.checkHealth session _ _).2 = link := congrArg Prod.snd hcall
  exact h.frame (hlink ▸ Link.marks_call) rfl id

end Relay

namespace Scene

theorem owned_step (h : Step s t) (hs : s.relay.Owned) : t.relay.Owned := by
  cases h with
  | remark level text fields => exact hs.frame rfl rfl id
  | connect => exact hs.connect
  | closeSession => exact hs.closeSession
  | recordSuccess => exact hs.frame rfl rfl id
  | recordFailure e => exact hs.recordFailure e
  | beginAttempt now => exact hs.beginAttempt now
  | wake h => exact hs.wakeAttempt
  | finish h => exact hs.frame rfl rfl id
  | ask h => exact hs.ask h
  | emit status =>
    obtain ⟨dropped, journal, hrelay⟩ := s.emit_relay status
    rw [hrelay]
    exact hs.frame rfl rfl id
  | sever => exact hs.frame Link.marks_sever rfl id
  | setReachable reachable => exact hs.frame rfl rfl id
  | setFiles files => exact hs.frame rfl rfl id
  | signal => exact hs.frame rfl rfl id
  | take => rwa [take_relay]
  | leave => exact hs
  | retire => exact hs

theorem owned_initial (b : Beginning) : b.scene.relay.Owned where
  open_iff id := by
    simp [Beginning.scene, relay, Poller.new, Relay.new, Link.marks_new, Connection.initial]
  held h := by simp [Beginning.scene, relay, Poller.new, Relay.new, Connection.initial] at h

theorem owned_run (b : Beginning) (actions : List Action) :
    (b.scene.run actions).relay.Owned :=
  (steps_run b.scene actions).keep owned_step (owned_initial b)

end Scene

/-- Where one place at most is marked, there is one mark or none. -/
theorem count_true_of_unique {marks : List Bool} {held : Option Nat}
    (h : ∀ k, marks[k]? = some true ↔ held = some k) :
    marks.count true = if held.isSome then 1 else 0 := by
  induction marks generalizing held with
  | nil =>
    cases held with
    | none => rfl
    | some k => simpa using h k
  | cons m marks ih =>
    rcases held with _ | _ | k
    · have hm : m = false := by simpa using h 0
      have hrest := @ih none fun j => by simpa using h (j + 1)
      simp [hm, hrest]
    · have hm : m = true := by simpa using h 0
      have hrest := @ih none fun j => by simpa using h (j + 1)
      simp [hm, hrest]
    · have hm : m = false := by simpa using h 0
      have hrest := @ih (some k) fun j => by simpa using h (j + 1)
      simp [hm, hrest]

namespace Relay

theorem Owned.closed_of_not_held (h : Owned r) {session : Session}
    (hs : r.link.sessions[id]? = some session) (hid : r.connection.session ≠ some id) :
    session.state = .closed := by
  have hm : r.link.marks[id]? ≠ some true := fun he => hid ((h.open_iff id).1 he)
  rw [Link.marks_getElem?, hs] at hm
  simpa using hm

theorem Owned.not_closed_of_held (h : Owned r) (hid : r.connection.session = some id) :
    ∃ session, r.link.sessions[id]? = some session ∧ session.state ≠ .closed := by
  have hm := (h.open_iff id).2 hid
  rw [Link.marks_getElem?] at hm
  obtain ⟨session, hs, hstate⟩ := Option.map_eq_some_iff.1 hm
  exact ⟨session, hs, by simpa using hstate⟩

theorem Owned.openCount_eq (h : Owned r) :
    r.link.openCount =
      r.link.closedCount + if r.connection.session.isSome then 1 else 0 := by
  have hclosed : r.link.closedCount = r.link.marks.count false := by
    rw [Link.closedCount, Link.marks, List.count, List.countP_map]
    congr 1
    funext s
    simp
  have hopen := count_true_of_unique h.open_iff
  rw [Link.openCount_eq, ← List.count_false_add_count_true, hclosed, hopen]

end Relay

/-- Whatever is done in whatever order, no session is lost: each one but the one held has been
closed, the one held has not, and the counts of opened and closed sessions say so. -/
theorem sessions_accounted_for (b : Beginning) (actions : List Action) :
    let r := (b.scene.run actions).relay
    (∀ id session, r.link.sessions[id]? = some session → r.connection.session ≠ some id →
      session.state = .closed) ∧
    (∀ id, r.connection.session = some id →
      ∃ session, r.link.sessions[id]? = some session ∧ session.state ≠ .closed) ∧
    (r.connection.connected = true → r.connection.session.isSome = true) ∧
    r.link.openCount = r.link.closedCount + if r.connection.session.isSome then 1 else 0 := by
  have h := Scene.owned_run b actions
  exact ⟨fun _ _ => h.closed_of_not_held, fun _ => h.not_closed_of_held, h.held, h.openCount_eq⟩

end HealthRelay
