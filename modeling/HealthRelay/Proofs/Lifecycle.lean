import HealthRelay.Monitor
import HealthRelay.Proofs.Delivery
import HealthRelay.Proofs.Numbering
import HealthRelay.Proofs.Ownership

/-!
The life of a monitor: it is started once and stopped once, in this order, however often and in
whatever order it is told to. What is left of it then stays as it is.
-/
namespace HealthRelay

variable {r : Relay} {s t : Scene} {m : Monitor} {settings : Settings} {n : Nat}

/-- How often the plugin was told to stop. -/
def Plugin.stops (p : Plugin) : Nat := p.received.count .stop

theorem Plugin.stops_checkHealth (p : Plugin) (sequence : Int) (parameters : Table String) :
    (p.checkHealth sequence parameters).2.stops = p.stops := by
  simp [stops, checkHealth]

theorem Plugin.stops_getMetadata (p : Plugin) : p.getMetadata.2.stops = p.stops := by
  simp [stops, getMetadata]

theorem Plugin.stops_stop (p : Plugin) : p.stop.2.stops = p.stops + 1 := by
  simp [stops, stop]

theorem Link.plugin_of_dial {l l' : Link} {endpoint : String} {id : Nat}
    (h : l.dial endpoint = .ok (id, l')) : l'.plugin = l.plugin := by
  rw [dial] at h
  split at h
  · cases h
  · cases h
    rfl

namespace Relay

theorem stops_connect (r : Relay) : r.connect.2.link.plugin.stops = r.link.plugin.stops := by
  obtain ⟨e, -, heq⟩ | ⟨id, link, identity, journal, hdial, heq⟩ := r.connect_cases <;> rw [heq]
  · rw [plugin_closeSession]
  · have hlink : link.plugin = r.link.plugin :=
      (Link.plugin_of_dial hdial).trans r.plugin_closeSession
    obtain hplugin | hplugin := link.plugin_call id getMetadataOperation Plugin.getMetadata
    · rw [Link.getMetadata, hplugin, hlink]
    · rw [Link.getMetadata, hplugin, Plugin.stops_getMetadata, hlink]

/-- What all that happens to a relay leaves alone, but for telling the plugin to stop. -/
structure Kept (settings : Settings) (n : Nat) (r : Relay) : Prop where
  owned : r.Owned
  attached : r.link.Attached
  settings_eq : r.settings = settings
  stops_eq : r.link.plugin.stops = n

theorem Kept.of_journal {journal : List Remark} (h : r.Kept settings n) :
    Kept settings n { r with journal := journal } :=
  ⟨h.owned.frame rfl rfl (fun hc => hc), h.attached, h.settings_eq, h.stops_eq⟩

end Relay

theorem Scene.attached_step (h : Step s t) (hs : s.relay.link.Attached) :
    t.relay.link.Attached := by
  cases h with
  | connect => exact s.relay.aside_connect.attached hs
  | closeSession => exact s.relay.aside_closeSession.attached hs
  | recordFailure e => exact (s.relay.aside_recordFailure e).attached hs
  | beginAttempt now => exact (s.relay.aside_beginAttempt now).attached hs
  | wake h => exact s.relay.aside_wakeAttempt.attached hs
  | ask h =>
    obtain ⟨session, link, -, hcall, rfl⟩ := Relay.ask?_eq_some h
    obtain rfl : (s.relay.link.checkHealth session _ _).2 = link := congrArg Prod.snd hcall
    exact hs.call
  | emit status =>
    obtain ⟨dropped, journal, heq⟩ := s.emit_relay status
    rwa [heq]
  | sever => exact s.relay.aside_sever.attached hs
  | take => rwa [take_relay]
  | remark | recordSuccess | finish | setReachable | setFiles | signal | leave | retire => exact hs

theorem Scene.stops_step (h : Step s t) :
    t.relay.link.plugin.stops = s.relay.link.plugin.stops := by
  cases h with
  | connect => exact s.relay.stops_connect
  | closeSession => exact congrArg Plugin.stops s.relay.plugin_closeSession
  | recordFailure e => rw [note_relay, Relay.recordFailure_link]
  | beginAttempt now =>
    change (s.relay.beginAttempt now).2.link.plugin.stops = _
    obtain ⟨-, heq⟩ | ⟨-, -, heq⟩ | ⟨-, -, -, journal, heq⟩ | ⟨-, -, -, journal, heq⟩ :=
      s.relay.beginAttempt_cases now <;> rw [heq]
  | wake h =>
    change s.relay.wakeAttempt.2.link.plugin.stops = _
    obtain heq | ⟨journal, heq⟩ | ⟨e, journal, -, heq⟩ | ⟨journal, -, heq⟩ :=
      s.relay.wakeAttempt_cases <;> rw [heq]
    · exact s.relay.stops_connect
    · exact s.relay.stops_connect
  | ask h =>
    obtain ⟨session, link, -, hcall, rfl⟩ := Relay.ask?_eq_some h
    obtain rfl : (s.relay.link.checkHealth session _ _).2 = link := congrArg Prod.snd hcall
    obtain hplugin | hplugin := s.relay.link.plugin_call session checkHealthOperation
      (Plugin.checkHealth (s.relay.sequence + 1 : Nat) s.relay.settings.pluginSettings.parameters)
    · exact congrArg Plugin.stops hplugin
    · exact (congrArg Plugin.stops hplugin).trans (Plugin.stops_checkHealth ..)
  | emit status =>
    obtain ⟨dropped, journal, heq⟩ := s.emit_relay status
    rw [heq]
  | sever =>
    simp only [note_relay, Link.sever]
    split <;> rfl
  | take => rw [take_relay]
  | remark | recordSuccess | finish | setReachable | setFiles | signal | leave | retire => rfl

theorem Scene.kept_step (h : Step s t) (hs : s.relay.Kept settings n) :
    t.relay.Kept settings n where
  owned := owned_step h hs.owned
  attached := attached_step h hs.attached
  settings_eq := (settings_step h).trans hs.settings_eq
  stops_eq := (stops_step h).trans hs.stops_eq

theorem Scene.Steps.kept (h : Steps s t) (hs : s.relay.Kept settings n) :
    t.relay.Kept settings n := h.keep kept_step hs

/-- What the loops of a monitor do by themselves, and what happens around it. -/
inductive Stir where
  | tickPolling (now : Nat) (stamp : Timestamp)
  | wakePolling (now : Nat)
  | tickProbing (now : Nat)
  | wakeProbing (now : Nat)
  | sever
  | setReachable (reachable : Bool)
  | setFiles (files : FileTree)
  /-- The host takes a report, if one waits. -/
  | take
  /-- The host drops its end of the stream. -/
  | leave

/-- What is done with a monitor. -/
inductive Act where
  | start (now : Nat) (stamp : Timestamp)
  /-- A stop, with what stirs before the loops are told to end, and after that before they do. -/
  | stop (told signalled : List Stir)
  | stir (x : Stir)

namespace Act

def isStart : Act → Bool
  | .start _ _ => true
  | .stop _ _ | .stir _ => false

def isStop : Act → Bool
  | .stop _ _ => true
  | .start _ _ | .stir _ => false

/-- There is a start. -/
def begun (acts : List Act) : Bool := acts.any isStart

/-- There is a stop after the first start. -/
def ended (acts : List Act) : Bool := (acts.dropWhile fun a => !a.isStart).any isStop

theorem begun_concat (acts : List Act) (a : Act) :
    begun (acts ++ [a]) = (begun acts || a.isStart) := by
  simp [begun]

theorem ended_concat (acts : List Act) (a : Act) :
    ended (acts ++ [a]) = (ended acts || (begun acts && a.isStop)) := by
  induction acts with
  | nil => cases a <;> rfl
  | cons b acts ih =>
    cases hb : b.isStart with
    | true => simp [ended, begun, hb, Bool.or_assoc]
    | false => simpa [ended, begun, hb] using ih

end Act

namespace Monitor

/-- A loop ticks only while it waits for its tick, and wakes only when it is asleep. -/
def stir (m : Monitor) : Stir → Monitor
  | .tickPolling now stamp =>
    match m.polling with
    | .idle _ => m.tickPolling now stamp
    | .off | .asleep _ _ => m
  | .wakePolling now => m.wakePolling now
  | .tickProbing now =>
    match m.probing with
    | .idle _ => m.tickProbing now
    | .off | .asleep _ _ => m
  | .wakeProbing now => m.wakeProbing now
  | .sever => m.updateRelay fun r => { r with link := r.link.sever }
  | .setReachable reachable =>
    m.updateRelay fun r => { r with link := r.link.setReachable reachable }
  | .setFiles files =>
    m.updateRelay fun r => { r with link := r.link.updateFiles fun _ => files }
  | .take => m.withStream m.stream.take.2
  | .leave => m.withStream m.stream.closeReceiver

def stirs (m : Monitor) (xs : List Stir) : Monitor := xs.foldl stir m

/-- A stop from its second step to where the loops end. -/
def windDown (told signalled : List Stir) (m : Monitor) : Monitor :=
  (m.notify.stirs told).signal.stirs signalled

/-- A stop that other things come between. -/
def stopAmid (told signalled : List Stir) (m : Monitor) : Monitor :=
  match m.claimStop? with
  | none => m
  | some m => (m.windDown told signalled).join.disconnect

/-- A stop that nothing comes between. -/
theorem stopAmid_nil : m.stopAmid [] [] = m.stop := rfl

/-- A start that is refused leaves the monitor as it is. -/
def perform (m : Monitor) : Act → Monitor
  | .start now stamp =>
    match m.start now stamp with
    | .ok m => m
    | .error _ => m
  | .stop told signalled => m.stopAmid told signalled
  | .stir x => m.stir x

def run (m : Monitor) (acts : List Act) : Monitor := acts.foldl perform m

/-! What stirs leaves the relay in order, and neither starts nor stops a loop. -/

/-- The monitor's poller, while an attempt may be in its delay. -/
def scene (m : Monitor) : Scene := ⟨m.poller, 1, 0, []⟩

theorem steps_finishAttempt (m : Monitor) :
    ∃ t, Scene.Steps m.scene t ∧ t.relay = m.relay.finishAttempt.2 := by
  have hwake : Scene.Step m.scene m.scene.wake := .wake Nat.one_pos
  have hfinish : Scene.Step m.scene.wake m.scene.wake.finish := .finish Nat.one_pos
  exact ⟨_, (Relation.ReflTransGen.single hwake).tail hfinish, rfl⟩

theorem steps_probe (m : Monitor) (now : Nat) :
    ∃ t, Scene.Steps m.scene t ∧ t.relay = (probe now m.relay).2 := by
  rw [probe]
  split
  · exact ⟨_, .refl, rfl⟩
  · refine ⟨_, Relation.ReflTransGen.single (.beginAttempt now), ?_⟩
    change (m.relay.beginAttempt now).2 = _
    rcases m.relay.beginAttempt now with ⟨outcome | delay, r⟩ <;> rfl

/-- What stirs is made of the steps of a poller. -/
theorem steps_stir (m : Monitor) (x : Stir) :
    ∃ t, Scene.Steps m.scene t ∧ t.relay = (m.stir x).relay := by
  have hstill : ∃ t, Scene.Steps m.scene t ∧ t.relay = m.relay := ⟨_, .refl, rfl⟩
  cases x with
  | tickPolling now stamp =>
    simp only [stir]
    split
    · exact ⟨_, m.scene.steps_beginPoll now stamp, rfl⟩
    · exact hstill
    · exact hstill
  | wakePolling now =>
    simp only [stir, wakePolling]
    split
    · exact m.steps_finishAttempt
    · exact hstill
    · exact hstill
  | tickProbing now =>
    simp only [stir]
    split
    · exact m.steps_probe now
    · exact hstill
    · exact hstill
  | wakeProbing now =>
    simp only [stir, wakeProbing]
    split
    · exact m.steps_finishAttempt
    · exact hstill
    · exact hstill
  | sever => exact ⟨_, .single .sever, rfl⟩
  | setReachable reachable => exact ⟨_, .single (.setReachable reachable), rfl⟩
  | setFiles files => exact ⟨_, .single (.setFiles files), rfl⟩
  | take => exact hstill
  | leave => exact hstill

theorem kept_stir (h : m.relay.Kept settings n) (x : Stir) :
    (m.stir x).relay.Kept settings n := by
  obtain ⟨t, hsteps, hrelay⟩ := m.steps_stir x
  rw [← hrelay]
  exact hsteps.kept h

theorem kept_stirs (h : m.relay.Kept settings n) (xs : List Stir) :
    (m.stirs xs).relay.Kept settings n := by
  induction xs generalizing m with
  | nil => exact h
  | cons x xs ih => exact ih (kept_stir h x)

theorem afterTick_ne_off (now : Nat) (interval : Duration) (delay : Option Duration) :
    Loop.afterTick now interval delay ≠ .off := by
  cases delay <;> simp [Loop.afterTick]

/-- A monitor is neither started nor stopped from one to the next, and no loop begins or ends. -/
structure Steady (m m' : Monitor) : Prop where
  started : m'.started = m.started
  stopped : m'.stopped = m.stopped
  polling : m'.polling = .off ↔ m.polling = .off
  probing : m'.probing = .off ↔ m.probing = .off

theorem Steady.refl (m : Monitor) : Steady m m := ⟨rfl, rfl, .rfl, .rfl⟩

theorem Steady.trans {m' m'' : Monitor} (h : Steady m m') (h' : Steady m' m'') : Steady m m'' :=
  ⟨h'.started.trans h.started, h'.stopped.trans h.stopped, h'.polling.trans h.polling,
    h'.probing.trans h.probing⟩

theorem steady_updateRelay (f : Relay → Relay) : Steady m (m.updateRelay f) :=
  ⟨rfl, rfl, .rfl, .rfl⟩

theorem steady_stir (m : Monitor) (x : Stir) : Steady m (m.stir x) := by
  cases x with
  | tickPolling now stamp =>
    simp only [stir]
    split
    · next next hidle =>
      exact ⟨rfl, rfl, iff_of_false (afterTick_ne_off _ _ _) (by simp [hidle]), .rfl⟩
    · exact .refl m
    · exact .refl m
  | wakePolling now =>
    simp only [stir, wakePolling]
    split
    · next wake next hasleep => exact ⟨rfl, rfl, by simp [hasleep], .rfl⟩
    · exact .refl m
    · exact .refl m
  | tickProbing now =>
    simp only [stir]
    split
    · next next hidle =>
      exact ⟨rfl, rfl, .rfl, iff_of_false (afterTick_ne_off _ _ _) (by simp [hidle])⟩
    · exact .refl m
    · exact .refl m
  | wakeProbing now =>
    simp only [stir, wakeProbing]
    split
    · next wake next hasleep => exact ⟨rfl, rfl, .rfl, by simp [hasleep]⟩
    · exact .refl m
    · exact .refl m
  | sever | setReachable | setFiles | take | leave => exact ⟨rfl, rfl, .rfl, .rfl⟩

theorem steady_stirs (m : Monitor) (xs : List Stir) : Steady m (m.stirs xs) := by
  induction xs generalizing m with
  | nil => exact .refl m
  | cons x xs ih => exact (m.steady_stir x).trans (ih (m.stir x))

theorem items_take (q : Stream) :
    q.take.2.items <:+ q.items ∧ q.take.2.senderOpen = q.senderOpen := by
  rw [Queue.take]
  split
  · next status rest heq => exact ⟨heq ▸ List.suffix_cons status rest, rfl⟩
  · exact ⟨List.suffix_rfl, rfl⟩

/-- Without its loops a monitor can only be severed from its plugin, and its stream be read. -/
theorem stir_of_off (hpolling : m.polling = .off) (hprobing : m.probing = .off) (x : Stir) :
    (m.stir x).relay.connection = m.relay.connection ∧
    (m.stir x).relay.stopping = m.relay.stopping ∧
    (m.stir x).stream.senderOpen = m.stream.senderOpen ∧
    (m.stir x).stream.items <:+ m.stream.items := by
  cases x with
  | take =>
    obtain ⟨hitems, hsender⟩ := items_take m.stream
    exact ⟨rfl, rfl, hsender, hitems⟩
  | leave => exact ⟨rfl, rfl, rfl, List.nil_suffix⟩
  | tickPolling | wakePolling =>
    simp only [stir, wakePolling, hpolling]
    exact ⟨trivial, trivial, trivial, List.suffix_rfl⟩
  | tickProbing | wakeProbing =>
    simp only [stir, wakeProbing, hprobing]
    exact ⟨trivial, trivial, trivial, List.suffix_rfl⟩
  | sever | setReachable | setFiles => exact ⟨rfl, rfl, rfl, List.suffix_rfl⟩

/-! The steps of a start and of a stop. -/

/-- A monitor that connects does what its relay does, and remarks on it. -/
theorem connect_relay (m : Monitor) :
    ∃ journal, m.connect.relay = { m.relay.connect.2 with journal := journal } := by
  simp only [connect, updateRelay, relay]
  rcases m.poller.relay.connect with ⟨e | _, r⟩ <;> exact ⟨_, rfl⟩

theorem kept_connect (h : m.relay.Kept settings n) : m.connect.relay.Kept settings n := by
  have hconnect : m.relay.connect.2.Kept settings n :=
    Scene.kept_step (.connect : Scene.Step m.scene _) h
  obtain ⟨journal, heq⟩ := m.connect_relay
  rw [heq]
  exact hconnect.of_journal

theorem connect_stopping (m : Monitor) : m.connect.relay.stopping = m.relay.stopping := by
  obtain ⟨journal, heq⟩ := m.connect_relay
  rw [heq]
  exact Relay.connect_stopping

theorem kept_greet (h : m.relay.Kept settings n) (stamp : Timestamp) :
    (m.poller.greet stamp).relay.Kept settings n := by
  rw [Poller.greet]
  split
  · exact h
  · exact (m.scene.steps_sendInitial stamp).kept h

/-- Telling the plugin to stop gets to it if a session is held that takes calls. -/
theorem kept_notify (h : m.relay.Kept settings n) :
    m.notify.relay.Kept settings (n + if m.relay.liveSession?.isSome then 1 else 0) := by
  simp only [notify, updateRelay]
  cases hlive : m.relay.liveSession? with
  | none =>
    have hlive' : m.poller.relay.liveSession? = none := hlive
    simp only [hlive']
    exact h
  | some id =>
    have hlive' : m.poller.relay.liveSession? = some id := hlive
    have htold : Relay.Kept settings (n + 1)
        { m.relay with link := (m.relay.link.stop id).2 } := by
      refine ⟨h.owned.frame Link.marks_call rfl (fun hc => hc), h.attached.call, h.settings_eq, ?_⟩
      have hplugin := Link.plugin_call_of_isLive h.attached (Relay.isLive_of_liveSession? hlive)
        stopOperation Plugin.stop
      rw [← h.stops_eq, ← Plugin.stops_stop]
      exact congrArg Plugin.stops hplugin
    simp only [hlive']
    rcases (m.poller.relay.link.stop id).1 with e | _
    · exact Relay.Kept.of_journal htold
    · exact htold

theorem steps_endLoop (m : Monitor) (loop : Loop) :
    ∃ t, Scene.Steps m.scene t ∧ t.relay = (m.endLoop loop).relay := by
  cases loop with
  | asleep wake next => exact m.steps_finishAttempt
  | off | idle next => exact ⟨_, .refl, rfl⟩

theorem kept_endLoop (h : m.relay.Kept settings n) (loop : Loop) :
    (m.endLoop loop).relay.Kept settings n := by
  obtain ⟨t, hsteps, hrelay⟩ := m.steps_endLoop loop
  rw [← hrelay]
  exact hsteps.kept h

/-- The loops have come to their end, and the stream is closed behind what waits in it. -/
theorem join_eq (hpolling : m.polling ≠ .off) :
    m.join = { m with
      poller := { m.poller with
        relay := ((m.endLoop m.polling).endLoop m.probing).relay
        outbox := m.stream.closeSender }
      polling := .off
      probing := .off } := by
  rw [join, joinPolling, if_neg hpolling]
  cases hpoll : m.polling <;> cases hprobe : m.probing <;>
    simp [joinProbing, endLoop, withStream, updateRelay, relay, stream, hprobe]

/-- What the last two steps of a stop make of a monitor with loops. -/
structure Finished (settings : Settings) (n : Nat) (m m' : Monitor) : Prop where
  kept : m'.relay.Kept settings n
  started : m'.started = m.started
  stopped : m'.stopped = m.stopped
  polling : m'.polling = .off
  probing : m'.probing = .off
  session : m'.relay.connection.session = none
  stream : m'.stream = m.stream.closeSender

theorem finished_disconnect (h : m.relay.Kept settings n) (hpolling : m.polling ≠ .off) :
    Finished settings n m m.join.disconnect := by
  have hended : ((m.endLoop m.polling).endLoop m.probing).relay.Kept settings n :=
    kept_endLoop (kept_endLoop h m.polling) m.probing
  have hclosed : ((m.endLoop m.polling).endLoop m.probing).relay.closeSession.Kept settings n :=
    Scene.kept_step (.closeSession : Scene.Step (scene _) _) hended
  rw [join_eq hpolling]
  exact ⟨hclosed.of_journal, rfl, rfl, rfl, rfl, rfl, rfl⟩

/-! The life of a monitor. -/

/-- The monitor has been started and not yet stopped. -/
def isRunning (m : Monitor) : Bool := m.started && !m.stopped

/-- How often an act tells the plugin to stop. -/
def notices (m : Monitor) : Act → Nat
  | .start _ _ | .stir _ => 0
  | .stop _ _ => if m.isRunning && m.relay.liveSession?.isSome then 1 else 0

theorem notices_cases (m : Monitor) (a : Act) :
    m.notices a = 0 ∨ (m.notices a = 1 ∧ m.isRunning = true ∧ a.isStop = true) := by
  cases a with
  | start | stir => exact .inl rfl
  | stop told signalled =>
    rw [notices]
    split
    · next hlive => exact .inr ⟨rfl, (Bool.and_eq_true_iff.1 hlive).1, rfl⟩
    · exact .inl rfl

/-- There are loops, and may be a session, from the start to the stop and not beyond. -/
structure Orderly (settings : Settings) (n : Nat) (m : Monitor) : Prop where
  kept : m.relay.Kept settings n
  /-- Only what was started is stopped. -/
  started : m.stopped = true → m.started = true
  polling : m.polling = .off ↔ m.isRunning = false
  probing : m.probing = .off ↔ m.isRunning = false
  session : m.isRunning = false → m.relay.connection.session = none
  unsignalled : m.started = false → m.relay.stopping = false
  closed : m.stopped = true → m.stream.senderOpen = false

theorem isRunning_eq_of_steady {m' : Monitor} (h : Steady m m') : m'.isRunning = m.isRunning := by
  rw [isRunning, isRunning, h.started, h.stopped]

theorem isRunning_eq_false_of_stopped (h : m.stopped = true) : m.isRunning = false := by
  rw [isRunning, h]
  simp

theorem isRunning_eq_false_of_not_started (h : m.started = false) : m.isRunning = false := by
  rw [isRunning, h]
  rfl

theorem Orderly.stir (h : m.Orderly settings n) (x : Stir) : (m.stir x).Orderly settings n := by
  have hsteady := m.steady_stir x
  have hrunning := isRunning_eq_of_steady hsteady
  refine ⟨kept_stir h.kept x, ?_, ?_, ?_, ?_, ?_, ?_⟩
  · rw [hsteady.started, hsteady.stopped]
    exact h.started
  · rw [hsteady.polling, hrunning]
    exact h.polling
  · rw [hsteady.probing, hrunning]
    exact h.probing
  · intro hoff
    rw [hrunning] at hoff
    obtain ⟨hconnection, -⟩ := stir_of_off (h.polling.2 hoff) (h.probing.2 hoff) x
    rw [hconnection]
    exact h.session hoff
  · intro hfresh
    rw [hsteady.started] at hfresh
    have hoff := isRunning_eq_false_of_not_started hfresh
    obtain ⟨-, hstopping, -⟩ := stir_of_off (h.polling.2 hoff) (h.probing.2 hoff) x
    rw [hstopping]
    exact h.unsignalled hfresh
  · intro hover
    rw [hsteady.stopped] at hover
    have hoff := isRunning_eq_false_of_stopped hover
    obtain ⟨-, -, hsender, -⟩ := stir_of_off (h.polling.2 hoff) (h.probing.2 hoff) x
    rw [hsender]
    exact h.closed hover

theorem start_of_started (h : m.started = true) (now : Nat) (stamp : Timestamp) :
    m.start now stamp = .error (.alreadyStarted m.relay.name) := by
  rw [start, claimStart, if_pos h]
  rfl

/-- The first start succeeds, whether or not the plugin can be reached. -/
theorem Orderly.start (h : m.Orderly settings n) (hfresh : m.started = false) (now : Nat)
    (stamp : Timestamp) :
    ∃ m', m.start now stamp = .ok m' ∧ m'.started = true ∧ m'.stopped = false ∧
      m'.Orderly settings n := by
  have hstopped : m.stopped = false := by
    cases hs : m.stopped with
    | false => rfl
    | true => exact absurd (h.started hs) (by simp [hfresh])
  let claimed : Monitor := { m with started := true }.updateRelay
    (.remark .info "Starting external monitor" [("endpoint", m.relay.endpoint)])
  have hclaimed : claimed.relay.Kept settings n := h.kept.of_journal
  have hstopping : claimed.connect.relay.stopping = false := by
    rw [connect_stopping]
    exact h.unsignalled hfresh
  refine ⟨claimed.connect.spawn now stamp, ?_, ?_⟩
  · rw [Monitor.start, claimStart, if_neg (by simp [hfresh])]
    rfl
  · rw [spawn, if_neg (by simp [hstopping])]
    have hstarted : claimed.connect.started = true := rfl
    have hnot : claimed.connect.stopped = false := hstopped
    refine ⟨hstarted, hnot, kept_greet (kept_connect hclaimed) stamp, ?_, ?_, ?_, ?_, ?_, ?_⟩
    all_goals simp [isRunning, hstarted, hnot, afterTick_ne_off]

/-- A stop without effect. -/
theorem stopAmid_of_not_running (h : m.isRunning = false) (told signalled : List Stir) :
    m.stopAmid told signalled = m := by
  have hnone : m.claimStop? = none := by
    rw [claimStop?, if_pos]
    rw [isRunning] at h
    cases hs : m.started <;> simp_all
  rw [stopAmid, hnone]

/-- The first stop after the start. -/
theorem Orderly.stopAmid (h : m.Orderly settings n) (hrun : m.isRunning = true)
    (told signalled : List Stir) :
    ∃ claimed, m.claimStop? = some claimed ∧
      let k := n + if m.relay.liveSession?.isSome then 1 else 0
      let m' := m.stopAmid told signalled
      m'.Orderly settings k ∧ m'.started = true ∧ m'.stopped = true ∧
        m'.stream.items = (claimed.windDown told signalled).stream.items := by
  obtain ⟨hstarted, hstopped⟩ : m.started = true ∧ m.stopped = false := by
    simpa [isRunning] using hrun
  let claimed : Monitor :=
    { m with stopped := true }.updateRelay (.remark .info "Stopping external monitor" [])
  have hclaim : m.claimStop? = some claimed := by
    rw [claimStop?, if_neg (by simp [hstarted, hstopped])]
  refine ⟨claimed, hclaim, ?_⟩
  intro k m'
  have hclaimed : claimed.relay.Kept settings n := h.kept.of_journal
  have hnotified : claimed.notify.relay.Kept settings k := kept_notify hclaimed
  have htold := kept_stirs hnotified told
  have hsignalled : (claimed.notify.stirs told).signal.relay.Kept settings k :=
    ⟨htold.owned.frame rfl rfl fun hc => hc, htold.attached, htold.settings_eq, htold.stops_eq⟩
  have hwound : (claimed.windDown told signalled).relay.Kept settings k :=
    kept_stirs hsignalled signalled
  have hsteady : Steady claimed (claimed.windDown told signalled) :=
    ((steady_updateRelay _).trans (steady_stirs _ told)).trans
      ((steady_updateRelay _).trans (steady_stirs _ signalled))
  have hpolling : (claimed.windDown told signalled).polling ≠ .off := by
    rw [ne_eq, hsteady.polling]
    exact fun hoff => absurd (h.polling.1 hoff) (by simp [hrun])
  have hstop : m' = (claimed.windDown told signalled).join.disconnect := by
    simp only [m', Monitor.stopAmid, hclaim]
  have hfinished : Finished settings k (claimed.windDown told signalled) m' :=
    hstop ▸ finished_disconnect hwound hpolling
  have hstarted' : m'.started = true := (hfinished.started.trans hsteady.started).trans hstarted
  have hstopped' : m'.stopped = true := hfinished.stopped.trans hsteady.stopped
  have hoff : m'.isRunning = false := isRunning_eq_false_of_stopped hstopped'
  refine ⟨⟨hfinished.kept, fun _ => hstarted', ?_, ?_, fun _ => hfinished.session, ?_, ?_⟩,
    hstarted', hstopped', ?_⟩
  · exact iff_of_true hfinished.polling hoff
  · exact iff_of_true hfinished.probing hoff
  · exact fun hfresh => absurd hfresh (by simp [hstarted'])
  · exact fun _ => congrArg Queue.senderOpen hfinished.stream
  · rw [hfinished.stream]
    rfl

/-! Runs. -/

/-- An act keeps a monitor orderly, and its flags tell of it. -/
theorem Orderly.perform (h : m.Orderly settings n) (a : Act) :
    (m.perform a).Orderly settings (n + m.notices a) ∧
    (m.perform a).started = (m.started || a.isStart) ∧
    (m.perform a).stopped = (m.stopped || (m.started && a.isStop)) := by
  cases a with
  | start now stamp =>
    cases hs : m.started with
    | false =>
      obtain ⟨m', hstart, hstarted, hstopped, horderly⟩ := h.start hs now stamp
      have hfresh : m.stopped = false := by
        cases ht : m.stopped with
        | false => rfl
        | true => exact absurd (h.started ht) (by simp [hs])
      simp only [Monitor.perform, hstart]
      exact ⟨horderly, hstarted, by simp [hstopped, hfresh]⟩
    | true =>
      simp only [Monitor.perform, start_of_started hs]
      exact ⟨h, hs, by simp [Act.isStop]⟩
  | stop told signalled =>
    cases hrun : m.isRunning with
    | true =>
      obtain ⟨-, -, horderly, hstarted, hstopped, -⟩ := h.stopAmid hrun told signalled
      obtain ⟨hwas, -⟩ : m.started = true ∧ m.stopped = false := by simpa [isRunning] using hrun
      have hnotices : m.notices (.stop told signalled) =
          if m.relay.liveSession?.isSome then 1 else 0 := by
        simp [notices, hrun]
      rw [hnotices]
      simp only [hwas, Act.isStop, Bool.true_or, Bool.and_true, Bool.or_true]
      exact ⟨horderly, hstarted, hstopped⟩
    | false =>
      have hsame : m.perform (.stop told signalled) = m := stopAmid_of_not_running hrun _ _
      rw [hsame]
      refine ⟨by simpa [notices, hrun] using h, by simp [Act.isStart], ?_⟩
      have hflags : m.started = true → m.stopped = true := by simpa [isRunning] using hrun
      cases hs : m.started with
      | false => simp
      | true => simp [hflags hs]
  | stir x =>
    have hsteady := m.steady_stir x
    simp only [Act.isStart, Act.isStop, Bool.and_false, Bool.or_false]
    exact ⟨h.stir x, hsteady.started, hsteady.stopped⟩

theorem run_concat (m : Monitor) (acts : List Act) (a : Act) :
    m.run (acts ++ [a]) = (m.run acts).perform a := by
  simp [run]

/-- Once a monitor has been stopped only its stream changes, and only by being read. -/
theorem Orderly.perform_of_stopped (h : m.Orderly settings n) (hstopped : m.stopped = true)
    (a : Act) :
    (m.perform a).Orderly settings n ∧ (m.perform a).stopped = true ∧
      (m.perform a).stream.items <:+ m.stream.items := by
  have hoff := isRunning_eq_false_of_stopped hstopped
  have hnotices : m.notices a = 0 := by
    obtain hnone | ⟨-, hrun, -⟩ := m.notices_cases a
    · exact hnone
    · exact absurd hrun (by simp [hoff])
  obtain ⟨horderly, -, hstopped'⟩ := h.perform a
  rw [hnotices] at horderly
  refine ⟨horderly, by rw [hstopped', hstopped, Bool.true_or], ?_⟩
  cases a with
  | start now stamp =>
    simp only [Monitor.perform, start_of_started (h.started hstopped)]
    exact List.suffix_rfl
  | stop told signalled =>
    have hsame : m.perform (.stop told signalled) = m := stopAmid_of_not_running hoff _ _
    exact hsame.symm ▸ List.suffix_rfl
  | stir x =>
    obtain ⟨-, -, -, hitems⟩ := stir_of_off (h.polling.2 hoff) (h.probing.2 hoff) x
    exact hitems

theorem Orderly.run_of_stopped (h : m.Orderly settings n) (hstopped : m.stopped = true)
    (acts : List Act) :
    (m.run acts).Orderly settings n ∧ (m.run acts).stopped = true ∧
      (m.run acts).stream.items <:+ m.stream.items := by
  induction acts generalizing m with
  | nil => exact ⟨h, hstopped, List.suffix_rfl⟩
  | cons a acts ih =>
    obtain ⟨horderly, hstopped', hitems⟩ := h.perform_of_stopped hstopped a
    obtain ⟨hrun, hstill, hrest⟩ := ih horderly hstopped'
    exact ⟨hrun, hstill, hrest.trans hitems⟩

/-- A monitor that began fresh is orderly after any run, its flags tell what has been done, and the
plugin has been told to stop at most once, and not before the stop. -/
theorem Orderly.run (h : m.Orderly settings n) (hfresh : m.started = false) (acts : List Act) :
    ∃ k, (m.run acts).Orderly settings k ∧ (m.run acts).started = Act.begun acts ∧
      (m.run acts).stopped = Act.ended acts ∧ k ≤ n + 1 ∧ (Act.ended acts = false → k = n) := by
  -- The last act meets the flags as the ones before it left them.
  induction acts using List.reverseRecOn with
  | nil =>
    refine ⟨n, h, hfresh, ?_, Nat.le_succ n, fun _ => rfl⟩
    cases hs : m.stopped with
    | false => exact hs
    | true => exact absurd (h.started hs) (by simp [hfresh])
  | append_singleton acts a ih =>
    obtain ⟨k, horderly, hstarted, hstopped, hle, heq⟩ := ih
    obtain ⟨horderly', hstarted', hstopped'⟩ := horderly.perform a
    rw [run_concat, Act.begun_concat, Act.ended_concat]
    rw [hstarted] at hstarted'
    rw [hstarted, hstopped] at hstopped'
    refine ⟨_, horderly', hstarted', hstopped', ?_⟩
    obtain hnone | ⟨hone, hrun, hstop⟩ := (m.run acts).notices_cases a
    · rw [hnone]
      refine ⟨hle, fun hended => heq ?_⟩
      exact (Bool.or_eq_false_iff.1 hended).1
    · rw [isRunning, hstarted, hstopped, Bool.and_eq_true_iff, Bool.not_eq_true'] at hrun
      obtain ⟨hbegun, hended⟩ := hrun
      rw [hone, heq hended]
      exact ⟨Nat.le_refl _, fun hnot => by simp [hbegun, hstop] at hnot⟩

theorem new_of_isOk {link : Link} (h : settings.check.isOk = true) :
    new settings link = .ok {
      poller := .new (.new settings link) (.ofCapacity streamCapacity)
      started := false
      stopped := false
      polling := .off
      probing := .off } := by
  cases hcheck : settings.check with
  | error e => simp [hcheck, Except.isOk, Except.toBool] at h
  | ok u => simp only [new, hcheck]

theorem orderly_new {files : FileTree} {plugin : Plugin}
    (h : new settings (.new .inProcess files plugin) = .ok m) :
    m.Orderly settings plugin.stops ∧ m.started = false := by
  rw [new] at h
  split at h
  · cases h
  · cases h
    have howned : Relay.Owned (.new settings (.new .inProcess files plugin)) :=
      Scene.owned_initial ⟨settings, .inProcess, files, plugin, some streamCapacity⟩
    refine ⟨⟨⟨howned, ?_, rfl, rfl⟩, ?_, ?_, ?_, fun _ => rfl, fun _ => rfl, ?_⟩, rfl⟩
    · exact fun session hmem => nomatch hmem
    · exact fun hs => nomatch hs
    · exact iff_of_true rfl rfl
    · exact iff_of_true rfl rfl
    · exact fun hs => nomatch hs

/-- What is left of a monitor after its stop: nothing but what waits for the host. -/
structure Over (stops : Nat) (waiting : List Status) (m : Monitor) : Prop where
  polling : m.polling = .off
  probing : m.probing = .off
  session : m.relay.connection.session = none
  closed : ∀ session ∈ m.relay.link.sessions, session.state = .closed
  stops : m.relay.link.plugin.stops = stops
  senderOpen : m.stream.senderOpen = false
  items : m.stream.items <:+ waiting

theorem Orderly.over {waiting : List Status} (h : m.Orderly settings n)
    (hstopped : m.stopped = true) (hitems : m.stream.items <:+ waiting) : m.Over n waiting := by
  have hoff := isRunning_eq_false_of_stopped hstopped
  have hnone := h.session hoff
  refine ⟨h.polling.2 hoff, h.probing.2 hoff, hnone, ?_, h.kept.stops_eq, h.closed hstopped, hitems⟩
  intro session hmem
  obtain ⟨id, hid⟩ := List.mem_iff_getElem?.1 hmem
  exact h.kept.owned.closed_of_not_held hid (by simp [hnone])

end Monitor

/-- However often a monitor is told to start and to stop, whatever its loops do in between and
whether or not its plugin can be reached: the first start succeeds and every other is refused, a
stop has an effect only if it is the first one after that start, and what it leaves is final. The
plugin is told of it, once, if a session takes calls when that stop begins. -/
theorem one_start_one_stop {files : FileTree} {plugin : Plugin}
    (h : Monitor.new settings (.new .inProcess files plugin) = .ok m) (acts : List Act) :
    let t := m.run acts
    let stops := t.relay.link.plugin.stops
    (t.polling ≠ .off ↔ Act.begun acts = true ∧ Act.ended acts = false) ∧
    (t.probing ≠ .off ↔ Act.begun acts = true ∧ Act.ended acts = false) ∧
    (∀ now stamp, Act.begun acts = false → ∃ t', t.start now stamp = .ok t') ∧
    (∀ now stamp, Act.begun acts = true →
      t.start now stamp = .error (.alreadyStarted settings.source) ∧
      t.perform (.start now stamp) = t) ∧
    (∀ told signalled, Act.begun acts = false ∨ Act.ended acts = true →
      t.perform (.stop told signalled) = t) ∧
    stops ≤ plugin.stops + 1 ∧
    (Act.ended acts = false → stops = plugin.stops) ∧
    (∀ told signalled, Act.begun acts = true → Act.ended acts = false →
      ∃ claimed waiting, t.claimStop? = some claimed ∧
        (claimed.windDown told signalled).stream.items = waiting ∧
        (t.perform (.stop told signalled)).stream.items = waiting ∧
        ∀ later, ((t.perform (.stop told signalled)).run later).Over
          (plugin.stops + if t.relay.liveSession?.isSome then 1 else 0) waiting) := by
  intro t stops
  obtain ⟨hnew, hfresh⟩ := Monitor.orderly_new h
  obtain ⟨k, ht, hstarted, hstopped, hle, heq⟩ := hnew.run hfresh acts
  have hstops : stops = k := ht.kept.stops_eq
  have hname : t.relay.name = settings.source := congrArg Settings.source ht.kept.settings_eq
  have hrunning : t.isRunning = (Act.begun acts && !Act.ended acts) := by
    rw [Monitor.isRunning, hstarted, hstopped]
  refine ⟨?_, ?_, ?_, ?_, ?_, ?_, ?_, ?_⟩
  · rw [ne_eq, ht.polling, hrunning]
    simp
  · rw [ne_eq, ht.probing, hrunning]
    simp
  · intro now stamp hbegun
    obtain ⟨t', hstart, -⟩ := ht.start (hstarted.trans hbegun) now stamp
    exact ⟨t', hstart⟩
  · intro now stamp hbegun
    have hrefused : t.start now stamp = .error (.alreadyStarted t.relay.name) :=
      Monitor.start_of_started (hstarted.trans hbegun) now stamp
    refine ⟨hname ▸ hrefused, ?_⟩
    simp only [Monitor.perform, hrefused]
  · intro told signalled hidle
    apply Monitor.stopAmid_of_not_running
    rw [hrunning]
    obtain hbegun | hended := hidle
    · rw [hbegun, Bool.false_and]
    · rw [hended, Bool.not_true, Bool.and_false]
  · rw [hstops]
    exact hle
  · intro hended
    rw [hstops, heq hended]
  · intro told signalled hbegun hended
    have hrun : t.isRunning = true := by
      rw [hrunning, hbegun, hended]
      rfl
    obtain ⟨claimed, hclaim, horderly, -, hover, hitems⟩ := ht.stopAmid hrun told signalled
    rw [heq hended] at horderly
    refine ⟨claimed, _, hclaim, rfl, hitems, fun later => ?_⟩
    obtain ⟨hlater, hstill, hrest⟩ := horderly.run_of_stopped hover later
    exact hlater.over hstill (hitems ▸ hrest)

/-- A monitor that is stopped before it is started, started, and stopped twice. -/
theorem one_start_one_stop_of_four :
    let settings := (Settings.new "gpu" "/run/gpu.sock").withDefaults
    let link := Link.new .inProcess .empty .silent
    let poller := Poller.new (.new settings link) (.ofCapacity streamCapacity)
    let m : Monitor := ⟨poller, false, false, .off, .off⟩
    Monitor.new settings link = .ok m ∧
      (m.run [.stop [] [], .start 0 .epoch, .stop [.sever] [], .stop [] []]).Over 1 [] := by
  intro settings link poller m
  have hnew : Monitor.new settings link = .ok m := Monitor.new_of_isOk (by decide +kernel)
  refine ⟨hnew, ?_⟩
  obtain ⟨-, -, -, -, -, -, -, hended⟩ := one_start_one_stop hnew [.stop [] [], .start 0 .epoch]
  obtain ⟨-, waiting, -, -, hwaiting, hover⟩ := hended [.sever] [] (by decide) (by decide)
  have hnothing : waiting = [] := hwaiting.symm.trans (by decide)
  have hlive : (m.run [.stop [] [], .start 0 .epoch]).relay.liveSession? = some 0 := by decide
  have honce : (Plugin.silent.stops + if (some 0).isSome then 1 else 0) = 1 := rfl
  rw [hlive, hnothing, honce] at hover
  have hover' := hover [.stop [] []]
  simp only [Monitor.run, List.foldl_cons, List.foldl_nil] at hover' ⊢
  exact hover'

end HealthRelay
