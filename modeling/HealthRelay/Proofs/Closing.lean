import HealthRelay.Proofs.Ownership
import HealthRelay.Proofs.SessionCalls
import Mathlib.Logic.Function.Basic

/-!
A session that has been closed stays closed, whatever happens to it and to the calls under way.

Calls are made from several sides at once. Between the start of a call and its end anything else may
happen. In process, where nothing comes between, a session that has failed is lost as well.
-/
namespace HealthRelay

variable {Caller : Type} [DecidableEq Caller] {l : Link} {id : Nat} {q : Plugin.Request}

/-- What happens to a link besides calls. -/
inductive LinkEvent where
  | dial (endpoint : String)
  | close (session : Nat)
  | sever
  /-- The plugin goes. -/
  | kill
  | setReachable (reachable : Bool)
  | setFiles (files : FileTree)

theorem ChannelState.isLive_settle_unavailable (transport : Transport) (state : ChannelState) :
    (state.settle transport (some .unavailable)).isLive = false := by
  cases state <;> rfl

namespace Link

def undergo (l : Link) : LinkEvent → Link
  | .dial endpoint =>
    match l.dial endpoint with
    | .ok (_, l) => l
    | .error _ => l
  | .close session => l.close session
  | .sever => l.sever
  | .kill => l.kill
  | .setReachable reachable => l.setReachable reachable
  | .setFiles files => l.updateFiles fun _ => files

theorem marks_kill : l.kill.marks = l.marks := by
  rw [kill, marks, marks]
  split
  · rfl
  · simp

theorem marks_convey : (l.convey id q).marks = l.marks := by
  rw [convey]
  split
  · rfl
  · exact marks_updateSession fun _ => .rfl

theorem marks_settle {code : Option StatusCode} : (l.settle id code).marks = l.marks :=
  marks_updateSession fun _ => ChannelState.settle_eq_closed_iff

theorem state?_eq_closed_iff : l.state? id = some .closed ↔ l.marks[id]? = some false := by
  rw [state?, marks_getElem?]
  cases l.sessions[id]? <;> simp

/-- Nothing that happens to a link opens a closed session again. -/
theorem closed_undergo (h : l.state? id = some .closed) (e : LinkEvent) :
    (l.undergo e).state? id = some .closed := by
  rw [state?_eq_closed_iff] at h ⊢
  have hlt : id < l.marks.length := (List.getElem?_eq_some_iff.1 h).1
  cases e with
  | dial endpoint =>
    simp only [undergo]
    split
    · next hdial => rw [(marks_dial hdial).2, List.getElem?_append_left hlt, h]
    · exact h
  | close session =>
    rw [undergo, marks_close, List.getElem?_set]
    split
    · simp_all
    · exact h
  | sever => rwa [undergo, marks_sever]
  | kill => rwa [undergo, marks_kill]
  | setReachable reachable => exact h
  | setFiles files => exact h

end Link

/-! Calls that overlap. -/

/-- How a call that has started comes to its end. -/
inductive CallEnding where
  | answered
  | refused (r : Refusal)
  /-- No answer came in time. In process it always does. -/
  | timedOut (limit : Duration)

/-- The ending that leads to a reply. -/
def Reply.ending (r : Reply) : CallEnding :=
  r.error?.elim .answered fun e => .refused ⟨e.code, e.detail⟩

/-- What a caller is at. -/
inductive CallStage where
  /-- It makes no call. If it made one before that failed, it failed so. -/
  | idle (last : Option CallError)
  | underway (session : Nat) (q : Plugin.Request)

/-- A link and those who make calls over it. -/
structure Traffic (Caller : Type) where
  link : Link
  stage : Caller → CallStage

/-- What happens without interruption. The first two are the steps of a call. -/
inductive TrafficStep (Caller : Type) where
  | start (i : Caller) (session : Nat) (q : Plugin.Request)
  | complete (i : Caller) (ending : CallEnding)
  | event (e : LinkEvent)

namespace Traffic

variable {t : Traffic Caller} {i : Caller}

/-- With a caller at another stage, and another link. -/
def move (i : Caller) (stage : CallStage) (l : Link) (t : Traffic Caller) : Traffic Caller :=
  ⟨l, Function.update t.stage i stage⟩

/-- The caller has started a call that has not come to its end. -/
def Calling (t : Traffic Caller) (i : Caller) : Prop := ∃ session q, t.stage i = .underway session q

/-- A caller starts a call only when it makes none. -/
def perform (t : Traffic Caller) : TrafficStep Caller → Traffic Caller
  | .start i session q =>
    match t.stage i with
    | .underway _ _ => t
    | .idle _ =>
      match t.link.refusal? session with
      | some detail => t.move i (.idle (some ⟨q.operation, .unavailable, detail⟩)) t.link
      | none => t.move i (.underway session q) (t.link.convey session q)
  | .complete i ending =>
    match t.stage i with
    | .idle _ => t
    | .underway session q =>
      match ending, t.link.transport with
      | .answered, _ => t.move i (.idle none) (t.link.settle session none)
      | .refused r, _ =>
        t.move i (.idle (some (.ofRefusal q.operation r))) (t.link.settle session (some r.code))
      | .timedOut limit, .socket =>
        t.move i (.idle (some (.deadlineExceeded q.operation limit))) t.link
      | .timedOut _, .inProcess => t
  | .event e => { t with link := t.link.undergo e }

def run (t : Traffic Caller) (steps : List (TrafficStep Caller)) : Traffic Caller :=
  steps.foldl perform t

omit [DecidableEq Caller] in
theorem idle_of_not_calling (h : ¬ t.Calling i) : ∃ last, t.stage i = .idle last := by
  cases hstage : t.stage i with
  | idle last => exact ⟨last, rfl⟩
  | underway session q => exact absurd ⟨session, q, hstage⟩ h

/-- Neither the start of a call nor its end opens a closed session again. -/
theorem closed_perform (h : t.link.state? id = some .closed) (step : TrafficStep Caller) :
    (t.perform step).link.state? id = some .closed := by
  cases step with
  | start i session q =>
    simp only [perform]
    split
    · exact h
    · split
      · exact h
      · rwa [Link.state?_eq_closed_iff, move, Link.marks_convey, ← Link.state?_eq_closed_iff]
  | complete i ending =>
    simp only [perform]
    split
    · exact h
    · split
      · rwa [Link.state?_eq_closed_iff, move, Link.marks_settle, ← Link.state?_eq_closed_iff]
      · rwa [Link.state?_eq_closed_iff, move, Link.marks_settle, ← Link.state?_eq_closed_iff]
      · exact h
      · exact h
  | event e => exact Link.closed_undergo h e

theorem closed_run (h : t.link.state? id = some .closed) (steps : List (TrafficStep Caller)) :
    (t.run steps).link.state? id = some .closed := by
  induction steps generalizing t with
  | nil => exact h
  | cons step steps ih => exact ih (closed_perform h step)

theorem perform_start_of_refusal {detail : String} (hi : ¬ t.Calling i)
    (h : t.link.refusal? id = some detail) (q : Plugin.Request) :
    t.perform (.start i id q) =
      t.move i (.idle (some ⟨q.operation, .unavailable, detail⟩)) t.link := by
  obtain ⟨last, hlast⟩ := idle_of_not_calling hi
  simp only [perform, hlast, h]

/-- A call that nothing comes between is the call of a link. -/
theorem run_alone (hi : ¬ t.Calling i) (id : Nat) (q : Plugin.Request) :
    t.run [.start i id q, .complete i (t.link.request id q).1.ending] =
      t.move i (.idle (t.link.request id q).1.error?) (t.link.request id q).2 := by
  obtain ⟨last, hlast⟩ := idle_of_not_calling hi
  simp only [run, List.foldl_cons, List.foldl_nil]
  cases hrefusal : t.link.refusal? id with
  | some detail =>
    obtain ⟨herror, hlink⟩ := Link.request_of_refusal hrefusal q
    rw [perform_start_of_refusal hi hrefusal, herror, hlink]
    simp [perform, move]
  | none =>
    obtain ⟨failure, herror, hlink⟩ := Link.request_of_no_refusal hrefusal q
    have hstart : t.perform (.start i id q) =
        t.move i (.underway id q) (t.link.convey id q) := by
      simp only [perform, hlast, hrefusal]
    rw [hstart, Reply.ending, herror, hlink]
    rcases failure with _ | r <;> simp [perform, move, CallError.ofRefusal]

end Traffic

/-! Calls one after another. -/

/-- What is done with a link, one thing after another. -/
inductive LinkAction where
  | call (session : Nat) (q : Plugin.Request)
  | event (e : LinkEvent)

namespace Link

def perform (l : Link) : LinkAction → Link
  | .call session q => (l.request session q).2
  | .event e => l.undergo e

def run (l : Link) (actions : List LinkAction) : Link := actions.foldl perform l

/-- In process, the session has failed or has been closed. -/
structure Lost (l : Link) (id : Nat) : Prop where
  inProcess : l.transport = .inProcess
  dead : ∃ s, l.sessions[id]? = some s ∧ s.state.isLive = false

variable {l' : Link} {e : CallError}

theorem Lost.isLive (h : l.Lost id) : l.isLive id = false := by
  obtain ⟨s, hsession, hdead⟩ := h.dead
  simp [Link.isLive, state?, hsession, hdead]

theorem Lost.refusal? (h : l.Lost id) : ∃ detail, l.refusal? id = some detail := by
  obtain ⟨s, hsession, hdead⟩ := h.dead
  simp only [Link.refusal?, hsession, h.inProcess]
  cases hstate : s.state with
  | idle | ready =>
    rw [hstate] at hdead
    cases hdead
  | failing => exact ⟨_, rfl⟩
  | closed => exact ⟨_, rfl⟩

theorem Lost.of_session (h : l.Lost id) (htransport : l'.transport = l.transport)
    (hsession : ∀ s, l.sessions[id]? = some s → s.state.isLive = false →
      ∃ s', l'.sessions[id]? = some s' ∧ s'.state.isLive = false) : l'.Lost id := by
  obtain ⟨s, hs, hdead⟩ := h.dead
  exact ⟨htransport.trans h.inProcess, hsession s hs hdead⟩

/-- What happens to another session, or leaves this one dead, does not bring it back. -/
theorem Lost.updateSession {k : Nat} {f : Session → Session} (h : l.Lost id)
    (hf : k = id → ∀ s, (f s).state.isLive = false) : (l.updateSession k f).Lost id := by
  refine h.of_session rfl fun s hs hdead => ?_
  by_cases hk : k = id
  · exact ⟨f s, by simp [Link.updateSession, hk, hs], hf hk s⟩
  · exact ⟨s, by simp [Link.updateSession, hk, hs], hdead⟩

theorem Lost.undergo (h : l.Lost id) (e : LinkEvent) : (l.undergo e).Lost id := by
  cases e with
  | dial endpoint =>
    simp only [Link.undergo, Link.dial]
    split
    · next hdial =>
      split at hdial
      · cases hdial
      · cases hdial
        refine h.of_session rfl fun s hs hdead => ⟨s, ?_, hdead⟩
        rwa [List.getElem?_append_left (List.getElem?_eq_some_iff.1 hs).1]
    · exact h
  | close session => exact h.updateSession fun _ _ => rfl
  | sever =>
    simp only [Link.undergo, Link.sever, h.inProcess]
    refine h.of_session h.inProcess.symm fun s hs _ => ⟨{ s with state := s.state.sever }, ?_, ?_⟩
    · simp [hs]
    · cases s.state <;> rfl
  | kill =>
    refine h.of_session rfl fun s hs hdead => ⟨s, ?_, hdead⟩
    simpa only [Link.undergo, Link.kill, h.inProcess] using hs
  | setReachable reachable => exact h.of_session rfl fun s hs hdead => ⟨s, hs, hdead⟩
  | setFiles files => exact h.of_session rfl fun s hs hdead => ⟨s, hs, hdead⟩

/-- A call through a session that is lost changes nothing, and one through another session has
nothing to do with it. -/
theorem Lost.request (h : l.Lost id) (session : Nat) (q : Plugin.Request) :
    (l.request session q).2.Lost id := by
  cases hrefusal : l.refusal? session with
  | some detail => rwa [(request_of_refusal hrefusal q).2]
  | none =>
    obtain ⟨failure, -, heq⟩ := request_of_no_refusal hrefusal q
    have hne : session ≠ id := by
      rintro rfl
      obtain ⟨detail, hdetail⟩ := h.refusal?
      rw [hrefusal] at hdetail
      cases hdetail
    have hconvey : (l.convey session q).Lost id := by
      rw [convey]
      split
      · exact h
      · exact Lost.updateSession ⟨h.inProcess, h.dead⟩ fun hk => absurd hk hne
    rw [heq]
    exact hconvey.updateSession fun hk => absurd hk hne

theorem Lost.run (h : l.Lost id) (actions : List LinkAction) : (l.run actions).Lost id := by
  induction actions generalizing l with
  | nil => exact h
  | cons a actions ih =>
    cases a with
    | call session q => exact ih (h.request session q)
    | event e => exact ih (h.undergo e)

theorem lost_sever (hl : l.transport = .inProcess) (hid : id < l.openCount) :
    l.sever.Lost id := by
  simp only [sever, hl]
  refine ⟨rfl, { l.sessions[id] with state := l.sessions[id].state.sever }, ?_, ?_⟩
  · simp [List.getElem?_eq_getElem hid]
  · cases l.sessions[id].state <;> rfl

/-- A call through which the plugin could not be had is the last one of its session. -/
theorem lost_of_unavailable (hl : l.transport = .inProcess) (hid : id < l.openCount)
    (h : (l.request id q).1.error? = some e) (he : e.code = .unavailable) :
    (l.request id q).2.Lost id := by
  cases hrefusal : l.refusal? id with
  | some detail =>
    rw [(request_of_refusal hrefusal q).2]
    have hsession : l.sessions[id]? = some l.sessions[id] := List.getElem?_eq_getElem hid
    refine ⟨hl, _, hsession, ?_⟩
    simp only [Link.refusal?, hsession] at hrefusal
    cases hstate : l.sessions[id].state <;> rw [hstate] at hrefusal <;> first | rfl | cases hrefusal
  | none =>
    obtain ⟨failure, herror, heq⟩ := request_of_no_refusal hrefusal q
    obtain ⟨s, hsession, -⟩ := exists_session_of_no_refusal hrefusal
    rw [herror] at h
    obtain ⟨r, rfl, rfl⟩ := Option.map_eq_some_iff.1 h
    have hcode : r.code = .unavailable := he
    let after : Session :=
      ⟨s.endpoint, s.state.settle l.transport (some .unavailable),
        s.attached || l.isListening s.endpoint⟩
    rw [heq, convey, hsession]
    refine ⟨hl, after, ?_, ChannelState.isLive_settle_unavailable l.transport s.state⟩
    simp [settle, updateSession, hsession, hcode, after]

end Link

/-- However calls from any number of sides overlap, and whatever else happens to the link, a session
that has been closed is closed from then on, and a call that starts on it is refused at once and
changes nothing, so that nothing of it gets to the plugin. A call with nothing between its two steps
is a call of the link; and of those, in process, the first that finds the plugin unavailable is the
last one of its session to get there, as is the last before all sessions are severed. -/
theorem closed_for_good (t : Traffic Caller) (id : Nat) (hid : id < t.link.openCount)
    (steps : List (TrafficStep Caller)) :
    let t' := (t.perform (.event (.close id))).run steps
    t'.link.state? id = some .closed ∧ t'.link.isLive id = false ∧
    (∀ i q, ¬ t'.Calling i →
      t'.perform (.start i id q) =
        t'.move i (.idle (some ⟨q.operation, .unavailable, "session closed"⟩)) t'.link) ∧
    (∀ i q, ¬ t.Calling i →
      let (reply, link) := t.link.request id q
      t.run [.start i id q, .complete i reply.ending] = t.move i (.idle reply.error?) link) ∧
    (∀ l, t.link.transport = .inProcess →
      (l = t.link.sever ∨ ∃ q e, (t.link.request id q).1.error? = some e ∧
        e.code = .unavailable ∧ l = (t.link.request id q).2) →
      ∀ actions, let l' := l.run actions
        l'.isLive id = false ∧
        ∀ q, ∃ detail, (l'.request id q).1.error? = some ⟨q.operation, .unavailable, detail⟩ ∧
          (l'.request id q).2 = l') := by
  intro t'
  have hclosed : t'.link.state? id = some .closed :=
    Traffic.closed_run (Link.closed_close hid) steps
  refine ⟨hclosed, Link.isLive_of_closed hclosed, ?_, ?_, ?_⟩
  · intro i q hi
    exact Traffic.perform_start_of_refusal hi (Link.refusal?_of_closed hclosed) q
  · intro i q hi
    exact Traffic.run_alone hi id q
  · intro l htransport hl actions l'
    have hlost : l.Lost id := by
      rcases hl with rfl | ⟨q, e, herror, hcode, rfl⟩
      · exact Link.lost_sever htransport hid
      · exact Link.lost_of_unavailable htransport hid herror hcode
    have hlost' : l'.Lost id := hlost.run actions
    refine ⟨hlost'.isLive, fun q => ?_⟩
    obtain ⟨detail, hdetail⟩ := hlost'.refusal?
    exact ⟨detail, Link.request_of_refusal hdetail q⟩

/-- The session is closed while a call is under way, which comes to its end with success; or it is
severed then, and called again. -/
theorem closed_for_good_amid_call :
    let opened := (Link.new .inProcess .empty .silent).undergo (.dial "/run/gpu.sock")
    let t := (Traffic.mk opened fun _ : Bool => .idle none).perform (.start true 0 .stop)
    let t' := (t.perform (.event (.close 0))).run [.complete true .answered]
    0 < t.link.openCount ∧ t'.link.state? 0 = some .closed ∧ ¬ t'.Calling false ∧
      t'.perform (.start false 0 .getMetadata) =
        t'.move false (.idle (some ⟨"GetMetadata", .unavailable, "session closed"⟩)) t'.link ∧
      t.link.transport = .inProcess ∧ (t.link.sever.run [.call 0 .stop]).isLive 0 = false := by
  intro opened t t'
  have hidle : ¬ t'.Calling false := by
    rintro ⟨session, q, hstage⟩
    cases hstage
  have hopen : 0 < t.link.openCount := by decide
  obtain ⟨hclosed, -, hstart, -, hlost⟩ := closed_for_good t 0 hopen [.complete true .answered]
  exact ⟨hopen, hclosed, hidle, hstart false .getMetadata hidle, rfl,
    (hlost _ rfl (.inl rfl) [.call 0 .stop]).1⟩

end HealthRelay
