import HealthRelay.Proofs.SessionCalls

/-!
A session in process and a session on a socket are the same to whoever makes calls only while the
session is live, or after it has been closed. What is known of them in between may differ.
-/
namespace HealthRelay

variable {α : Type} {l m l' m' : Link} {i j id : Nat} {name : String} {session : Session}
  {ask : Plugin → Except Refusal α × Plugin} {q : Plugin.Request} {closed : Bool}

namespace Plugin

/-- All answers that are given in time. -/
def Script.answers (s : Script α) : List α := s.next :: s.later

theorem Script.mem_of_mem_advance {s : Script α} {a : α} (h : a ∈ s.advance.answers) :
    a ∈ s.answers := by
  rcases s with ⟨next, _ | ⟨second, later⟩⟩
  · exact h
  · exact List.mem_cons_of_mem _ h

/-- The answer is no refusal with the code of success. -/
def Proper (answer : Except Refusal α) : Prop := Refusal.code? answer ≠ some .ok

/-- All refusals say what is wrong. -/
structure Coded (p : Plugin) : Prop where
  health : ∀ a ∈ p.health.answers, Proper a
  metadata : ∀ a ∈ p.metadata.answers, Proper a
  stopping : ∀ a ∈ p.stopping.answers, Proper a

theorem Coded.checkHealth {p : Plugin} (h : p.Coded) (sequence : Int) (parameters : Table String) :
    (p.checkHealth sequence parameters).2.Coded :=
  ⟨fun a ha => h.health a (Script.mem_of_mem_advance ha), h.metadata, h.stopping⟩

theorem Coded.getMetadata {p : Plugin} (h : p.Coded) : p.getMetadata.2.Coded :=
  ⟨h.health, fun a ha => h.metadata a (Script.mem_of_mem_advance ha), h.stopping⟩

theorem Coded.stop {p : Plugin} (h : p.Coded) : p.stop.2.Coded :=
  ⟨h.health, h.metadata, fun a ha => h.stopping a (Script.mem_of_mem_advance ha)⟩

end Plugin

theorem Transport.deliver_of_proper {answer : Except Refusal α} (h : Plugin.Proper answer)
    (transport : Transport) : transport.deliver answer = answer := by
  unfold deliver
  split
  · exact absurd rfl h
  · rfl

namespace ChannelState

/-- Nobody who makes calls only to live and closed sessions can tell one state from the other. -/
def Alike (a b : ChannelState) : Prop := a.isLive = b.isLive ∧ (a = .closed ↔ b = .closed)

variable {a b : ChannelState}

theorem refusal?_of_isLive (h : a.isLive = true) (transport : Transport) :
    a.refusal? transport = none := by
  cases a <;> first | rfl | cases h

/-- An error of the plugin's own leaves one state as it was and makes the other ready, and both are
live still. -/
theorem alike_settle (ha : a.isLive = true) (hb : b.isLive = true) (code : Option StatusCode) :
    (a.settle .inProcess code).Alike (b.settle .socket code) := by
  cases a <;> cases ha <;> cases b <;> cases hb <;> rcases code with _ | code <;>
    try cases code
  all_goals simp [Alike, settle, isLive]

end ChannelState

/-- What is done with a session. -/
inductive SessionAction where
  | call (q : Plugin.Request)
  | close

namespace Link

/-- Does one thing with a session. A call has a reply. -/
def act (id : Nat) (l : Link) : SessionAction → Option Reply × Link
  | .call q => ((l.request id q).1, (l.request id q).2)
  | .close => (none, l.close id)

/-- What is seen of a session: each reply, and whether the session is live after it. -/
def watch (id : Nat) (l : Link) : List SessionAction → List (Option Reply × Bool)
  | [] => []
  | a :: actions => ((l.act id a).1, (l.act id a).2.isLive id) :: (l.act id a).2.watch id actions

def actAll (id : Nat) (l : Link) (actions : List SessionAction) : Link :=
  actions.foldl (fun l a => (l.act id a).2) l

/-- Each call is made while the session is live, or after it has been closed. -/
def CalledInTime (id : Nat) : Bool → Link → List SessionAction → Prop
  | _, _, [] => True
  | closed, l, .call q :: actions =>
    (closed = true ∨ l.isLive id = true) ∧ CalledInTime id closed (l.request id q).2 actions
  | _, l, .close :: actions => CalledInTime id true (l.close id) actions

/-- A call that starts on a session with the plugin at its other end gets the plugin's answer. -/
theorem call_of_attached (hsession : l.sessions[id]? = some session)
    (hattached : session.attached = true) (hlive : session.state.isLive = true)
    (hproper : Plugin.Proper (ask l.plugin).1) :
    l.call id name ask =
      ((ask l.plugin).1.mapError (.ofRefusal name),
        { l with plugin := (ask l.plugin).2 }.updateSession id fun s =>
          { s with
            state := s.state.settle l.transport (Refusal.code? (ask l.plugin).1)
            attached := s.attached || l.isListening s.endpoint }) := by
  have hopen := ChannelState.refusal?_of_isLive hlive l.transport
  simp [call, hsession, hopen, exchange, hattached, Transport.deliver_of_proper hproper]

end Link

/-- A session in process and one on a socket, with plugins that will answer the same. -/
structure Matched (i j : Nat) (l m : Link) : Prop where
  inProcess : l.transport = .inProcess
  socket : m.transport = .socket
  plugin : m.plugin = l.plugin
  coded : l.plugin.Coded
  sessions : ∃ s t, l.sessions[i]? = some s ∧ m.sessions[j]? = some t ∧
    s.attached = true ∧ t.attached = true ∧ s.state.Alike t.state

namespace Matched

theorem isLive_eq (h : Matched i j l m) : m.isLive j = l.isLive i := by
  obtain ⟨s, t, hs, ht, -, -, hlive, -⟩ := h.sessions
  simp [Link.isLive, Link.state?, hs, ht, hlive]

theorem closed_iff (h : Matched i j l m) :
    l.state? i = some .closed ↔ m.state? j = some .closed := by
  obtain ⟨s, t, hs, ht, -, -, -, hclosed⟩ := h.sessions
  simp [Link.state?, hs, ht, hclosed]

theorem lt_openCount (h : Matched i j l m) : i < l.openCount := by
  obtain ⟨s, -, hs, -⟩ := h.sessions
  exact (List.getElem?_eq_some_iff.1 hs).1

theorem close (h : Matched i j l m) : Matched i j (l.close i) (m.close j) := by
  obtain ⟨s, t, hs, ht, hattached, hattached', -, -⟩ := h.sessions
  refine ⟨h.inProcess, h.socket, h.plugin, h.coded, { s with state := .closed },
    { t with state := .closed }, ?_, ?_, hattached, hattached', rfl, .rfl⟩
  · simp [Link.close, Link.updateSession, hs]
  · simp [Link.close, Link.updateSession, ht]

/-- A call while the sessions are live is answered the same. -/
theorem call (h : Matched i j l m) (hlive : l.isLive i = true) (name : String)
    (hproper : Plugin.Proper (ask l.plugin).1) (hcoded : (ask l.plugin).2.Coded) :
    (l.call i name ask).1 = (m.call j name ask).1 ∧
      Matched i j (l.call i name ask).2 (m.call j name ask).2 := by
  obtain ⟨s, t, hs, ht, hattached, hattached', hstates, -⟩ := h.sessions
  have hslive : s.state.isLive = true := by simpa [Link.isLive, Link.state?, hs] using hlive
  have htlive : t.state.isLive = true := hstates ▸ hslive
  have hproper' : Plugin.Proper (ask m.plugin).1 := h.plugin ▸ hproper
  rw [Link.call_of_attached hs hattached hslive hproper,
    Link.call_of_attached ht hattached' htlive hproper', h.plugin]
  let code := Refusal.code? (ask l.plugin).1
  let s' : Session :=
    ⟨s.endpoint, s.state.settle l.transport code, s.attached || l.isListening s.endpoint⟩
  let t' : Session :=
    ⟨t.endpoint, t.state.settle m.transport code, t.attached || m.isListening t.endpoint⟩
  have halike : s'.state.Alike t'.state := by
    simp only [s', t', h.inProcess, h.socket]
    exact ChannelState.alike_settle hslive htlive code
  refine ⟨rfl, h.inProcess, h.socket, rfl, hcoded, s', t', ?_, ?_, ?_, ?_, halike⟩
  · simp [Link.updateSession, hs, s', code]
  · simp [Link.updateSession, ht, t', code]
  · simp [s', hattached]
  · simp [t', hattached']

/-- A call after the sessions have been closed is refused the same. -/
theorem call_of_closed (h : Matched i j l m) (hclosed : l.state? i = some .closed) (name : String) :
    (l.call i name ask).1 = (m.call j name ask).1 ∧
      Matched i j (l.call i name ask).2 (m.call j name ask).2 := by
  rw [Link.call_of_refusal (Link.refusal?_of_closed hclosed),
    Link.call_of_refusal (Link.refusal?_of_closed (h.closed_iff.1 hclosed))]
  exact ⟨rfl, h⟩

theorem call_of_ready (h : Matched i j l m)
    (hready : l.state? i = some .closed ∨ l.isLive i = true) (name : String)
    (hproper : Plugin.Proper (ask l.plugin).1) (hcoded : (ask l.plugin).2.Coded) :
    (l.call i name ask).1 = (m.call j name ask).1 ∧
      Matched i j (l.call i name ask).2 (m.call j name ask).2 := by
  rcases hready with hclosed | hlive
  · exact h.call_of_closed hclosed name
  · exact h.call hlive name hproper hcoded

theorem request (h : Matched i j l m) (hready : l.state? i = some .closed ∨ l.isLive i = true)
    (q : Plugin.Request) :
    (l.request i q).1 = (m.request j q).1 ∧ Matched i j (l.request i q).2 (m.request j q).2 := by
  cases q with
  | checkHealth sequence parameters =>
    obtain ⟨hanswer, hmatched⟩ := @call_of_ready _ l m i j (Plugin.checkHealth sequence parameters)
      h hready checkHealthOperation (h.coded.health _ List.mem_cons_self)
      (h.coded.checkHealth sequence parameters)
    exact ⟨congrArg Reply.report hanswer, hmatched⟩
  | getMetadata =>
    obtain ⟨hanswer, hmatched⟩ := @call_of_ready _ l m i j Plugin.getMetadata
      h hready getMetadataOperation (h.coded.metadata _ List.mem_cons_self) h.coded.getMetadata
    exact ⟨congrArg Reply.metadata hanswer, hmatched⟩
  | stop =>
    obtain ⟨hanswer, hmatched⟩ := @call_of_ready _ l m i j Plugin.stop
      h hready stopOperation (h.coded.stopping _ List.mem_cons_self) h.coded.stop
    exact ⟨congrArg Reply.stopped hanswer, hmatched⟩

/-- Sessions that have just been opened are matched. -/
theorem of_dial {e e' : String} (hl : l.transport = .inProcess) (hm : m.transport = .socket)
    (hplugin : m.plugin = l.plugin) (hcoded : l.plugin.Coded) (hdial : l.dial e = .ok (i, l'))
    (hdial' : m.dial e' = .ok (j, m')) : Matched i j l' m' := by
  rw [Link.dial] at hdial hdial'
  split at hdial <;> cases hdial
  split at hdial' <;> cases hdial'
  exact ⟨hl, hm, hplugin, hcoded, ⟨e, .idle, true⟩, ⟨e', .idle, true⟩, by simp, by simp, rfl, rfl,
    rfl, .rfl⟩

end Matched

theorem Link.closed_request (h : l.state? id = some .closed) (q : Plugin.Request) :
    (l.request id q).2.state? id = some .closed := by
  rwa [(request_of_refusal (refusal?_of_closed h) q).2]

namespace Matched

/-- Calls are in time on one session if they are in time on the other. -/
theorem calledInTime_iff (h : Matched i j l m)
    (hclosed : closed = true → l.state? i = some .closed) (actions : List SessionAction) :
    l.CalledInTime i closed actions ↔ m.CalledInTime j closed actions := by
  induction actions generalizing l m closed with
  | nil => exact .rfl
  | cons a actions ih =>
    cases a with
    | call q =>
      simp only [Link.CalledInTime, h.isLive_eq]
      refine and_congr_right fun htime => ?_
      have hready := htime.imp_left hclosed
      exact ih (h.request hready q).2 fun hc => Link.closed_request (hclosed hc) q
    | close => exact ih h.close fun _ => Link.closed_close h.lt_openCount

theorem watch_eq (h : Matched i j l m) (hclosed : closed = true → l.state? i = some .closed)
    {actions : List SessionAction} (htime : l.CalledInTime i closed actions) :
    l.watch i actions = m.watch j actions ∧
      (m.actAll j actions).plugin = (l.actAll i actions).plugin := by
  induction actions generalizing l m closed with
  | nil => exact ⟨rfl, h.plugin⟩
  | cons a actions ih =>
    cases a with
    | call q =>
      obtain ⟨hnow, hlater⟩ := htime
      obtain ⟨hreply, hmatched⟩ := h.request (hnow.imp_left hclosed) q
      obtain ⟨hwatch, hplugin⟩ :=
        ih hmatched (fun hc => Link.closed_request (hclosed hc) q) hlater
      refine ⟨?_, hplugin⟩
      simp only [Link.watch, Link.act, hreply, hmatched.isLive_eq, hwatch]
    | close =>
      obtain ⟨hwatch, hplugin⟩ := ih h.close (fun _ => Link.closed_close h.lt_openCount) htime
      refine ⟨?_, hplugin⟩
      simp only [Link.watch, Link.act, h.close.isLive_eq, hwatch]

end Matched

/-- A session in process and one on a socket, just opened, with plugins that will give the same
answers and no refusal with the code of success. Whatever is called and closed on both, if each call
is made while the session is live or after it has been closed, which comes to the same for both,
then the replies are the same, the sessions are live at the same times, and the plugins end up
having been asked the same. -/
theorem transports_agree (hl : l.transport = .inProcess) (hm : m.transport = .socket)
    (hplugin : m.plugin = l.plugin) (hcoded : l.plugin.Coded) {e e' : String}
    (hdial : l.dial e = .ok (i, l')) (hdial' : m.dial e' = .ok (j, m'))
    (actions : List SessionAction) :
    l'.isLive i = true ∧ m'.isLive j = true ∧
    (l'.CalledInTime i false actions ↔ m'.CalledInTime j false actions) ∧
    (l'.CalledInTime i false actions →
      l'.watch i actions = m'.watch j actions ∧
      (m'.actAll j actions).plugin = (l'.actAll i actions).plugin) := by
  have h : Matched i j l' m' := .of_dial hl hm hplugin hcoded hdial hdial'
  have hlive : l'.isLive i = true := by
    rw [Link.dial] at hdial
    split at hdial <;> cases hdial
    simp [Link.isLive, Link.state?, ChannelState.isLive]
  have hopen : false = true → l'.state? i = some .closed := fun h => absurd h Bool.false_ne_true
  exact ⟨hlive, h.isLive_eq.trans hlive, h.calledInTime_iff hopen actions, h.watch_eq hopen⟩

/-- A socket put in the working directory is found there. -/
theorem FileTree.lookup_put_p :
    (FileTree.put .empty "p" (.socket true)).lookup "p" = .ok (.socket true) := by
  have hsplit : "p".splitOn "/" = ["p"] := by
    rw [String.splitOn, if_neg (by decide)]
    rw [String.splitOnAux, if_neg (by decide +kernel), if_neg (by decide +kernel)]
    rw [String.splitOnAux, if_pos (by decide +kernel)]
    decide +kernel
  have horigin : origin "p" = [] := by decide +kernel
  have hpath : components "p" = ["p"] := by simp [components, horigin, hsplit]
  simp only [put, lookup, hpath, horigin, hsplit]
  rfl

/-- The plugin has nothing to tell, then cannot be had, and is asked again once the session has been
closed. -/
theorem transports_agree_on_refusals :
    let plugin := Plugin.ofAnswers [.error ⟨.notFound, "no sensor"⟩, .error ⟨.unavailable, "gone"⟩]
      [] []
    let l := Link.new .inProcess .empty plugin
    let m := (Link.new .socket .empty plugin).serve "p"
    let actions : List SessionAction :=
      [.call (.checkHealth 1 .empty), .call (.checkHealth 2 .empty), .close, .call .stop]
    ∃ i j l' m', l.dial "p" = .ok (i, l') ∧ m.dial "p" = .ok (j, m') ∧
      l'.CalledInTime i false actions ∧ l'.watch i actions = m'.watch j actions := by
  intro plugin l m actions
  have hcoded : plugin.Coded := by
    refine ⟨fun a ha => ?_, fun a ha => ?_, fun a ha => ?_⟩
    · rcases ha with _ | ⟨_, _ | ⟨_, ⟨⟩⟩⟩ <;> nofun
    · cases List.mem_singleton.1 ha
      nofun
    · cases List.mem_singleton.1 ha
      nofun
  have hdial : l.dial "p" = .ok (0, { l with sessions := [⟨"p", .idle, true⟩] }) := rfl
  have hdial' : m.dial "p" = .ok (0, { m with sessions := [⟨"p", .idle, true⟩] }) := by
    have hlookup : m.files.lookup "p" = .ok (.socket true) := FileTree.lookup_put_p
    have htransport : m.transport = .socket := rfl
    have hfound : m.obstacle? "p" = none := by
      simp [Link.obstacle?, Link.isListening, htransport, hlookup]
    rw [Link.dial, hfound]
    rfl
  have hplugin : m.plugin = l.plugin := rfl
  obtain ⟨-, -, -, hagree⟩ := transports_agree rfl rfl hplugin hcoded hdial hdial' actions
  have htime : Link.CalledInTime 0 false { l with sessions := [⟨"p", .idle, true⟩] } actions :=
    ⟨.inr rfl, .inr rfl, .inl rfl, trivial⟩
  exact ⟨0, 0, _, _, hdial, hdial', htime, (hagree htime).1⟩

end HealthRelay
