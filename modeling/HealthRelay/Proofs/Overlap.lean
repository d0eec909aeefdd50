import HealthRelay.Proofs.Exclusion
import HealthRelay.Proofs.Lifecycle

/-!
A start and a stop of one monitor at the same time: what is held once both have returned.

Both are taken step by step. Between two steps of the one the other may take its own, and the loops
that have begun go on meanwhile.
-/
namespace HealthRelay

variable {s t : Scene} {m : Monitor} {settings : Settings} {link : Link}

/-- Where a start is. -/
inductive StartStage where
  | ready
  /-- The monitor is marked as started. -/
  | claimed
  | connected
  /-- The polling loop has begun. -/
  | polling
  | returned
  deriving DecidableEq

/-- Where a stop is. -/
inductive StopStage where
  | ready
  /-- It came before the start, and has returned without effect. -/
  | dismissed
  /-- The monitor is marked as stopped. -/
  | claimed
  | notified
  /-- The loops have been told to end. -/
  | signalled
  /-- The polling loop is over, if it had begun. -/
  | joining
  /-- So is the probing loop. -/
  | joined
  | returned
  deriving DecidableEq

/-- How many steps have had an effect. -/
def StopStage.steps : StopStage → Nat
  | .ready | .dismissed => 0
  | .claimed => 1
  | .notified => 2
  | .signalled => 3
  | .joining => 4
  | .joined => 5
  | .returned => 6

/-- Once the monitor is being stopped it stays so. -/
theorem Scene.stopping_step (h : Step s t) (hs : s.relay.stopping = true) :
    t.relay.stopping = true := by
  cases h with
  | connect => exact Relay.connect_stopping.trans hs
  | recordFailure e =>
    obtain ⟨journal, heq⟩ := s.relay.recordFailure_eq e
    rw [note_relay, heq]
    exact hs
  | beginAttempt now =>
    change (s.relay.beginAttempt now).2.stopping = true
    obtain ⟨-, heq⟩ | ⟨-, -, heq⟩ | ⟨-, -, -, journal, heq⟩ | ⟨-, -, -, journal, heq⟩ :=
      s.relay.beginAttempt_cases now <;> rw [heq] <;> exact hs
  | wake h =>
    change s.relay.wakeAttempt.2.stopping = true
    rw [Relay.wakeAttempt, if_pos hs]
    exact hs
  | ask h =>
    obtain ⟨session, link, -, -, rfl⟩ := Relay.ask?_eq_some h
    exact hs
  | emit status =>
    obtain ⟨dropped, journal, heq⟩ := s.emit_relay status
    rw [heq]
    exact hs
  | take => rwa [take_relay]
  | signal => rfl
  | remark | closeSession | recordSuccess | finish | sever | setReachable | setFiles | leave |
    retire => exact hs

theorem Scene.Steps.stopping (h : Steps s t) (hs : s.relay.stopping = true) :
    t.relay.stopping = true := h.keep stopping_step hs

namespace Monitor

/-- The first loop begins. When the monitor is being stopped it ends at once. -/
def spawnPolling (now : Nat) (stamp : Timestamp) (m : Monitor) : Monitor :=
  let poller := m.poller.greet stamp
  if m.relay.stopping then { m with poller := { poller with outbox := poller.outbox.closeSender } }
  else { m with poller := poller, polling := .afterTick now m.settings.pollInterval none }

/-- And so does the second one. -/
def spawnProbing (now : Nat) (m : Monitor) : Monitor :=
  if m.relay.stopping then m
  else { m with probing := .afterTick now m.settings.probeInterval none }

theorem spawnPolling_relay (now : Nat) (stamp : Timestamp) (m : Monitor) :
    ∃ dropped journal, (m.spawnPolling now stamp).relay =
      { m.relay with dropped := dropped, journal := journal } := by
  obtain ⟨dropped, journal, heq⟩ := m.poller.greet_relay stamp
  refine ⟨dropped, journal, ?_⟩
  rw [spawnPolling]
  split <;> exact heq

theorem spawnPolling_frame (now : Nat) (stamp : Timestamp) (m : Monitor) :
    (m.spawnPolling now stamp).started = m.started ∧
    (m.spawnPolling now stamp).stopped = m.stopped ∧
    (m.relay.stopping = true → (m.spawnPolling now stamp).polling = m.polling) ∧
    (m.spawnPolling now stamp).probing = m.probing := by
  rw [spawnPolling]
  split
  · exact ⟨rfl, rfl, fun _ => rfl, rfl⟩
  · next hgoing => exact ⟨rfl, rfl, fun hstopping => absurd hstopping hgoing, rfl⟩

/-- The loops begin one after the other. -/
theorem spawn_eq (now : Nat) (stamp : Timestamp) (m : Monitor) :
    m.spawn now stamp = (m.spawnPolling now stamp).spawnProbing now := by
  obtain ⟨dropped, journal, heq⟩ := m.spawnPolling_relay now stamp
  have hstopping : (m.spawnPolling now stamp).relay.stopping = m.relay.stopping := by rw [heq]
  have hsettings : (m.spawnPolling now stamp).settings = m.settings := by
    rw [Monitor.settings, heq]
    rfl
  rw [spawnProbing, hstopping, hsettings, spawn, spawnPolling]
  split <;> rfl

/-- Ending a loop changes the relay at most, and that does not cease to be stopped. -/
theorem endLoop_frame (m : Monitor) (loop : Loop) :
    (m.endLoop loop).started = m.started ∧ (m.endLoop loop).stopped = m.stopped ∧
    (m.endLoop loop).polling = m.polling ∧
    (m.relay.stopping = true → (m.endLoop loop).relay.stopping = true) := by
  obtain ⟨t, hsteps, hrelay⟩ := m.steps_endLoop loop
  have hstopping (h : m.relay.stopping = true) : (m.endLoop loop).relay.stopping = true := by
    rw [← hrelay]
    exact hsteps.stopping h
  cases loop <;> exact ⟨rfl, rfl, rfl, hstopping⟩

/-- The polling loop goes on to connect, in an attempt whose delay was over before the loops were
told to end. -/
def overrunPolling (now : Nat) (m : Monitor) : Monitor :=
  match m.polling with
  | .asleep _ next =>
    { m.updateRelay fun r => r.dialAttempt.2.endAttempt with polling := .idle (max now next) }
  | .off | .idle _ => m

/-- So does the probing loop. -/
def overrunProbing (now : Nat) (m : Monitor) : Monitor :=
  match m.probing with
  | .asleep _ next =>
    { m.updateRelay fun r => r.dialAttempt.2.endAttempt with probing := .idle (max now next) }
  | .off | .idle _ => m

end Monitor

/-- A start and a stop of a monitor. -/
structure Overlap where
  monitor : Monitor
  starting : StartStage
  stopping : StopStage
  /-- The start has opened a session after the stop had returned. -/
  late : Bool

/-- What happens next: a step of the start, a step of the stop, or something else. -/
inductive OverlapTurn where
  | start (now : Nat) (stamp : Timestamp)
  | stop
  | stir (x : Stir)
  | overrunPolling (now : Nat)
  | overrunProbing (now : Nat)

namespace Overlap

variable {x : Overlap}

/-- Neither has begun. -/
def around (m : Monitor) : Overlap := ⟨m, .ready, .ready, false⟩

def advanceStart (now : Nat) (stamp : Timestamp) (x : Overlap) : Overlap :=
  match x.starting with
  | .ready =>
    match x.monitor.claimStart with
    | .ok m => { x with monitor := m, starting := .claimed }
    | .error _ => x
  | .claimed =>
    { x with
      monitor := x.monitor.connect
      starting := .connected
      late := x.stopping = .returned && x.monitor.relay.connect.1.isOk }
  | .connected => { x with monitor := x.monitor.spawnPolling now stamp, starting := .polling }
  | .polling => { x with monitor := x.monitor.spawnProbing now, starting := .returned }
  | .returned => x

def advanceStop (x : Overlap) : Overlap :=
  match x.stopping with
  | .ready =>
    match x.monitor.claimStop? with
    | none => { x with stopping := .dismissed }
    | some m => { x with monitor := m, stopping := .claimed }
  | .claimed => { x with monitor := x.monitor.notify, stopping := .notified }
  | .notified => { x with monitor := x.monitor.signal, stopping := .signalled }
  | .signalled => { x with monitor := x.monitor.joinPolling, stopping := .joining }
  | .joining => { x with monitor := x.monitor.joinProbing, stopping := .joined }
  | .joined => { x with monitor := x.monitor.disconnect, stopping := .returned }
  | .dismissed | .returned => x

def perform (x : Overlap) : OverlapTurn → Overlap
  | .start now stamp => x.advanceStart now stamp
  | .stop => x.advanceStop
  | .stir y => { x with monitor := x.monitor.stir y }
  | .overrunPolling now => { x with monitor := x.monitor.overrunPolling now }
  | .overrunProbing now => { x with monitor := x.monitor.overrunProbing now }

def run (x : Overlap) (turns : List OverlapTurn) : Overlap := turns.foldl perform x

/-- What is known of the monitor by where the start and the stop are. -/
structure Sound (x : Overlap) : Prop where
  started : x.monitor.started = true ↔ x.starting ≠ .ready
  stopped : x.monitor.stopped = true ↔ 1 ≤ x.stopping.steps
  signalled : 3 ≤ x.stopping.steps → x.monitor.relay.stopping = true
  /-- A loop that begins after this ends at once, so that no loop is left. -/
  polling : 4 ≤ x.stopping.steps → x.monitor.polling = .off
  probing : 5 ≤ x.stopping.steps → x.monitor.probing = .off
  session : x.stopping = .returned →
    (x.monitor.relay.connection.session = none ↔ x.late = false)
  /-- The start connects once. -/
  late : x.late = true →
    x.stopping = .returned ∧ x.starting ≠ .ready ∧ x.starting ≠ .claimed

theorem sound_around (hstarted : m.started = false) (hstopped : m.stopped = false) :
    (around m).Sound where
  started := by simp [around, hstarted]
  stopped := by simp [around, hstopped, StopStage.steps]
  signalled h := by simp [around, StopStage.steps] at h
  polling h := by simp [around, StopStage.steps] at h
  probing h := by simp [around, StopStage.steps] at h
  session h := by simp [around] at h
  late h := by simp [around] at h

theorem Sound.off_of_returned (h : x.Sound) (hreturned : x.stopping = .returned) :
    x.monitor.polling = .off ∧ x.monitor.probing = .off := by
  have hsteps : x.stopping.steps = 6 := congrArg StopStage.steps hreturned
  exact ⟨h.polling (by omega), h.probing (by omega)⟩

/-- Where the start and the stop stay where they are, the monitor may change as it may by itself:
loops neither begin nor end, and without them no session is opened or closed. -/
theorem Sound.frame (h : x.Sound) {m' : Monitor} (hsteady : Monitor.Steady x.monitor m')
    (hstopping : x.monitor.relay.stopping = true → m'.relay.stopping = true)
    (hsession : x.monitor.polling = .off → x.monitor.probing = .off →
      m'.relay.connection.session = x.monitor.relay.connection.session) :
    Sound { x with monitor := m' } where
  started := by rw [hsteady.started, h.started]
  stopped := by rw [hsteady.stopped, h.stopped]
  signalled hsteps := hstopping (h.signalled hsteps)
  polling hsteps := hsteady.polling.2 (h.polling hsteps)
  probing hsteps := hsteady.probing.2 (h.probing hsteps)
  session hreturned := by
    obtain ⟨hpolling, hprobing⟩ := h.off_of_returned hreturned
    rw [hsession hpolling hprobing, h.session hreturned]
  late := h.late

theorem Sound.stir (h : x.Sound) (y : Stir) : (x.perform (.stir y)).Sound := by
  obtain ⟨t, hsteps, hrelay⟩ := x.monitor.steps_stir y
  refine h.frame (x.monitor.steady_stir y) ?_ ?_
  · intro hstopping
    rw [← hrelay]
    exact hsteps.stopping hstopping
  · intro hpolling hprobing
    obtain ⟨hconnection, -⟩ := Monitor.stir_of_off hpolling hprobing y
    rw [hconnection]

/-- A loop that has begun may connect. -/
theorem Sound.overrun (h : x.Sound) {m' : Monitor} (hsteady : Monitor.Steady x.monitor m')
    (hrelay : m'.relay = x.monitor.relay.dialAttempt.2.endAttempt)
    (hrunning : ¬ (x.monitor.polling = .off ∧ x.monitor.probing = .off)) :
    Sound { x with monitor := m' } := by
  refine h.frame hsteady ?_ ?_
  · intro hstopping
    obtain ⟨outcome, journal, -, heq⟩ := x.monitor.relay.dialAttempt_cases
    rw [hrelay, heq]
    exact Relay.connect_stopping.trans hstopping
  · intro hpolling hprobing
    exact absurd ⟨hpolling, hprobing⟩ hrunning

theorem Sound.overrunPolling (h : x.Sound) (now : Nat) :
    (x.perform (.overrunPolling now)).Sound := by
  rw [perform, Monitor.overrunPolling]
  cases hloop : x.monitor.polling with
  | off | idle next => exact h
  | asleep wake next => exact h.overrun ⟨rfl, rfl, by simp [hloop], .rfl⟩ rfl (by simp [hloop])

theorem Sound.overrunProbing (h : x.Sound) (now : Nat) :
    (x.perform (.overrunProbing now)).Sound := by
  rw [perform, Monitor.overrunProbing]
  cases hloop : x.monitor.probing with
  | off | idle next => exact h
  | asleep wake next => exact h.overrun ⟨rfl, rfl, .rfl, by simp [hloop]⟩ rfl (by simp [hloop])

theorem Sound.claimStart (h : x.Sound) (hready : x.starting = .ready) :
    ∃ journal, x.monitor.claimStart =
      .ok ({ x.monitor with started := true }.updateRelay fun r =>
        { r with journal := journal :: r.journal }) := by
  have hfresh : x.monitor.started = false := by
    rw [← Bool.not_eq_true, h.started]
    simp [hready]
  rw [Monitor.claimStart, if_neg (by simp [hfresh])]
  exact ⟨_, rfl⟩

/-- The start connects. What it opens when the stop has returned is held. -/
theorem Sound.connect (h : x.Sound) (hclaimed : x.starting = .claimed) :
    Sound { x with
      monitor := x.monitor.connect
      starting := .connected
      late := x.stopping = .returned && x.monitor.relay.connect.1.isOk } := by
  obtain ⟨journal, hrelay⟩ := x.monitor.connect_relay
  have hstarted : x.monitor.connect.started = true := by
    apply h.started.2
    simp [hclaimed]
  refine ⟨iff_of_true hstarted (by simp), h.stopped, ?_, h.polling, h.probing, ?_, ?_⟩
  · intro hsteps
    rw [hrelay]
    exact Relay.connect_stopping.trans (h.signalled hsteps)
  · intro hreturned
    have hreturned' : x.stopping = .returned := hreturned
    rw [hrelay]
    obtain ⟨e, hfailed, heq⟩ | ⟨id, identity, hopened, heq⟩ := x.monitor.relay.connect_connection
    · simp [hfailed, heq, Connection.detach, Except.isOk, Except.toBool]
    · simp [hopened, heq, hreturned', Connection.install, Except.isOk, Except.toBool]
  · intro hlate
    have hreturned : x.stopping = .returned := of_decide_eq_true (Bool.and_eq_true_iff.1 hlate).1
    exact ⟨hreturned, by simp, by simp⟩

theorem Sound.spawnPolling (h : x.Sound) (hconnected : x.starting = .connected) (now : Nat)
    (stamp : Timestamp) :
    Sound { x with monitor := x.monitor.spawnPolling now stamp, starting := .polling } := by
  obtain ⟨dropped, journal, hrelay⟩ := x.monitor.spawnPolling_relay now stamp
  obtain ⟨hstarted, hstopped, hpolling, hprobing⟩ := x.monitor.spawnPolling_frame now stamp
  have hbegun : x.monitor.started = true := h.started.2 (by simp [hconnected])
  refine ⟨iff_of_true (hstarted.trans hbegun) (by simp), ?_, ?_, ?_, ?_, ?_, ?_⟩
  · rw [hstopped]
    exact h.stopped
  · rw [hrelay]
    exact h.signalled
  · intro hsteps
    have hsignalled : 3 ≤ x.stopping.steps := Nat.le_of_succ_le hsteps
    rw [hpolling (h.signalled hsignalled)]
    exact h.polling hsteps
  · rw [hprobing]
    exact h.probing
  · rw [hrelay]
    exact h.session
  · intro hlate
    exact ⟨(h.late hlate).1, by simp, by simp⟩

theorem Sound.spawnProbing (h : x.Sound) (hpolling : x.starting = .polling) (now : Nat) :
    Sound { x with monitor := x.monitor.spawnProbing now, starting := .returned } := by
  have hbegun : x.monitor.started = true := h.started.2 (by simp [hpolling])
  rw [Monitor.spawnProbing]
  split
  · refine { h with started := iff_of_true hbegun (by simp), late := ?_ }
    exact fun hlate => ⟨(h.late hlate).1, by simp, by simp⟩
  · next hgoing =>
    refine { h with started := iff_of_true hbegun (by simp), probing := ?_, late := ?_ }
    · intro hsteps
      have hsignalled : 3 ≤ x.stopping.steps := Nat.le_trans (by decide) hsteps
      exact absurd (h.signalled hsignalled) hgoing
    · exact fun hlate => ⟨(h.late hlate).1, by simp, by simp⟩

theorem Sound.start (h : x.Sound) (now : Nat) (stamp : Timestamp) :
    (x.perform (.start now stamp)).Sound := by
  rw [perform, advanceStart]
  cases hstage : x.starting with
  | ready =>
    obtain ⟨remark, hclaim⟩ := h.claimStart hstage
    simp only [hclaim]
    refine { h with started := iff_of_true rfl (by simp), late := ?_ }
    exact fun hlate => absurd hstage (h.late hlate).2.1
  | claimed => exact h.connect hstage
  | connected => exact h.spawnPolling hstage now stamp
  | polling => exact h.spawnProbing hstage now
  | returned => exact h

/-- The stop goes on to another stage, up to where no session is held. -/
theorem Sound.proceed (h : x.Sound) {m' : Monitor} {stage : StopStage}
    (hgoing : x.stopping ≠ .returned) (hstarted : m'.started = x.monitor.started)
    (hstopped : m'.stopped = true ↔ 1 ≤ stage.steps)
    (hsignalled : 3 ≤ stage.steps → m'.relay.stopping = true)
    (hpolling : 4 ≤ stage.steps → m'.polling = .off)
    (hprobing : 5 ≤ stage.steps → m'.probing = .off)
    (hsession : stage = .returned → m'.relay.connection.session = none) :
    Sound { x with monitor := m', stopping := stage } := by
  have hlate : x.late = false := by
    rw [← Bool.not_eq_true]
    exact fun hlate => hgoing (h.late hlate).1
  refine ⟨?_, hstopped, hsignalled, hpolling, hprobing, ?_, ?_⟩
  · rw [hstarted]
    exact h.started
  · intro hreturned
    exact iff_of_true (hsession hreturned) hlate
  · intro hlate'
    exact absurd hlate' (by simp [hlate])

theorem Sound.claimStop (h : x.Sound) (hready : x.stopping = .ready) : x.advanceStop.Sound := by
  have hgoing : x.stopping ≠ .returned := by simp [hready]
  have hfresh : ¬ x.monitor.stopped = true := by
    rw [h.stopped, hready]
    decide
  simp only [advanceStop, hready]
  cases hclaim : x.monitor.claimStop? with
  | none =>
    refine h.proceed hgoing rfl (iff_of_false hfresh (by decide)) ?_ ?_ ?_ ?_ <;>
      simp [StopStage.steps]
  | some m' =>
    rw [Monitor.claimStop?] at hclaim
    split at hclaim
    · cases hclaim
    · cases hclaim
      refine h.proceed hgoing rfl (iff_of_true rfl (by decide)) ?_ ?_ ?_ ?_ <;>
        simp [StopStage.steps]

theorem Sound.joinPolling (h : x.Sound) (hstage : x.stopping = .signalled) :
    Sound { x with monitor := x.monitor.joinPolling, stopping := .joining } := by
  have hgoing : x.stopping ≠ .returned := by simp [hstage]
  have hsteps : x.stopping.steps = 3 := congrArg StopStage.steps hstage
  have hstopped : x.monitor.stopped = true := h.stopped.2 (by omega)
  have hstopping : x.monitor.relay.stopping = true := h.signalled (by omega)
  obtain ⟨hstarted', hstopped', -, hstopping'⟩ := x.monitor.endLoop_frame x.monitor.polling
  rw [Monitor.joinPolling]
  split
  · next hoff =>
    exact h.proceed hgoing rfl (iff_of_true hstopped (by decide)) (fun _ => hstopping)
      (fun _ => hoff) (by simp [StopStage.steps]) (by simp)
  · exact h.proceed hgoing hstarted' (iff_of_true (hstopped'.trans hstopped) (by decide))
      (fun _ => hstopping' hstopping) (fun _ => rfl) (by simp [StopStage.steps]) (by simp)

theorem Sound.joinProbing (h : x.Sound) (hstage : x.stopping = .joining) :
    Sound { x with monitor := x.monitor.joinProbing, stopping := .joined } := by
  have hgoing : x.stopping ≠ .returned := by simp [hstage]
  have hsteps : x.stopping.steps = 4 := congrArg StopStage.steps hstage
  have hstopped : x.monitor.stopped = true := h.stopped.2 (by omega)
  have hstopping : x.monitor.relay.stopping = true := h.signalled (by omega)
  have hoff : x.monitor.polling = .off := h.polling (by omega)
  obtain ⟨hstarted', hstopped', hpolling', hstopping'⟩ :=
    x.monitor.endLoop_frame x.monitor.probing
  exact h.proceed hgoing hstarted' (iff_of_true (hstopped'.trans hstopped) (by decide))
    (fun _ => hstopping' hstopping) (fun _ => hpolling'.trans hoff) (fun _ => rfl) (by simp)

theorem Sound.disconnect (h : x.Sound) (hstage : x.stopping = .joined) :
    Sound { x with monitor := x.monitor.disconnect, stopping := .returned } := by
  have hgoing : x.stopping ≠ .returned := by simp [hstage]
  have hsteps : x.stopping.steps = 5 := congrArg StopStage.steps hstage
  have hstopped : x.monitor.stopped = true := h.stopped.2 (by omega)
  exact h.proceed hgoing rfl (iff_of_true hstopped (by decide)) (fun _ => h.signalled (by omega))
    (fun _ => h.polling (by omega)) (fun _ => h.probing (by omega)) (fun _ => rfl)

theorem Sound.stop (h : x.Sound) : (x.perform .stop).Sound := by
  rw [perform]
  cases hstage : x.stopping with
  | ready => exact h.claimStop hstage
  | claimed =>
    have hsteps : x.stopping.steps = 1 := congrArg StopStage.steps hstage
    have hstopped : x.monitor.stopped = true := h.stopped.2 (by omega)
    rw [advanceStop, hstage]
    refine h.proceed (by simp [hstage]) rfl (iff_of_true hstopped (by decide)) ?_ ?_ ?_ ?_ <;>
      simp [StopStage.steps]
  | notified =>
    have hsteps : x.stopping.steps = 2 := congrArg StopStage.steps hstage
    have hstopped : x.monitor.stopped = true := h.stopped.2 (by omega)
    rw [advanceStop, hstage]
    refine h.proceed (by simp [hstage]) rfl (iff_of_true hstopped (by decide)) (fun _ => rfl)
      ?_ ?_ ?_ <;> simp [StopStage.steps]
  | signalled =>
    rw [advanceStop, hstage]
    exact h.joinPolling hstage
  | joining =>
    rw [advanceStop, hstage]
    exact h.joinProbing hstage
  | joined =>
    rw [advanceStop, hstage]
    exact h.disconnect hstage
  | dismissed | returned =>
    rw [advanceStop, hstage]
    exact h

theorem sound_perform (h : x.Sound) (turn : OverlapTurn) : (x.perform turn).Sound := by
  cases turn with
  | start now stamp => exact h.start now stamp
  | stop => exact h.stop
  | stir y => exact h.stir y
  | overrunPolling now => exact h.overrunPolling now
  | overrunProbing now => exact h.overrunProbing now

theorem sound_run (h : x.Sound) (turns : List OverlapTurn) : (x.run turns).Sound := by
  induction turns generalizing x with
  | nil => exact h
  | cons turn turns ih => exact ih (sound_perform h turn)

/-- A start that nothing comes between. -/
theorem run_start_alone (hready : x.starting = .ready) (now : Nat) (stamp : Timestamp) :
    (x.run (List.replicate 4 (.start now stamp))).monitor =
      x.monitor.perform (.start now stamp) := by
  cases hclaim : x.monitor.claimStart with
  | error e =>
    simp [run, perform, advanceStart, hready, hclaim, Monitor.perform, Monitor.start, Except.map]
  | ok m =>
    simp [run, perform, advanceStart, hready, hclaim, Monitor.perform, Monitor.start, Except.map,
      Monitor.spawn_eq]

/-- A stop that nothing comes between. -/
theorem run_stop_alone (hready : x.stopping = .ready) :
    (x.run (List.replicate 6 .stop)).monitor = x.monitor.stop := by
  cases hclaim : x.monitor.claimStop? with
  | none => simp [run, perform, advanceStop, hready, hclaim, Monitor.stop]
  | some m => simp [run, perform, advanceStop, hready, hclaim, Monitor.stop, Monitor.join]

end Overlap

namespace Monitor

/-- It has been started and stopped, and there are no loops. -/
structure Spent (m : Monitor) : Prop where
  started : m.started = true
  stopped : m.stopped = true
  polling : m.polling = .off
  probing : m.probing = .off

/-- Nothing is opened or closed any more. -/
theorem Spent.perform (h : m.Spent) (a : Act) :
    (m.perform a).Spent ∧ (m.perform a).relay.connection = m.relay.connection := by
  cases a with
  | start now stamp =>
    have hrefused := start_of_started h.started now stamp
    have hsame : m.perform (.start now stamp) = m := by simp only [Monitor.perform, hrefused]
    rw [hsame]
    exact ⟨h, rfl⟩
  | stop told signalled =>
    have hsame : m.perform (.stop told signalled) = m :=
      stopAmid_of_not_running (isRunning_eq_false_of_stopped h.stopped) told signalled
    rw [hsame]
    exact ⟨h, rfl⟩
  | stir y =>
    have hsteady := m.steady_stir y
    obtain ⟨hconnection, -⟩ := stir_of_off h.polling h.probing y
    exact ⟨⟨hsteady.started.trans h.started, hsteady.stopped.trans h.stopped,
      hsteady.polling.2 h.polling, hsteady.probing.2 h.probing⟩, hconnection⟩

theorem Spent.run (h : m.Spent) (acts : List Act) :
    (m.run acts).relay.connection = m.relay.connection := by
  induction acts generalizing m with
  | nil => rfl
  | cons a acts ih =>
    obtain ⟨hspent, hconnection⟩ := h.perform a
    exact (ih hspent).trans hconnection

end Monitor

/-- When a start and a stop overlap and both have returned, no session is held unless the start has
opened one after the stop was over. Nothing that is done later with the monitor changes that: a
session held then is held for good. Without anything in between, the steps of either are a start or
a stop. -/
theorem no_session_unless_late (h : Monitor.new settings link = .ok m)
    (turns : List OverlapTurn) :
    let x := (Overlap.around m).run turns
    (x.starting = .returned → x.stopping = .returned →
      ((x.monitor.relay.connection.session = none ∧ x.monitor.relay.isConnected = false) ↔
        x.late = false) ∧
      ∀ acts, (x.monitor.run acts).relay.connection = x.monitor.relay.connection) ∧
    (x.starting = .ready → ∀ now stamp,
      (x.run (List.replicate 4 (.start now stamp))).monitor =
        x.monitor.perform (.start now stamp)) ∧
    (x.stopping = .ready → (x.run (List.replicate 6 .stop)).monitor = x.monitor.stop) := by
  intro x
  refine ⟨?_, Overlap.run_start_alone, Overlap.run_stop_alone⟩
  intro hstarted hstopped
  have hfresh : m.started = false ∧ m.stopped = false := by
    rw [Monitor.new] at h
    split at h <;> cases h
    exact ⟨rfl, rfl⟩
  have hsound : x.Sound := Overlap.sound_run (Overlap.sound_around hfresh.1 hfresh.2) turns
  have hsession := hsound.session hstopped
  obtain ⟨hpolling, hprobing⟩ := hsound.off_of_returned hstopped
  have hsteps : x.stopping.steps = 6 := congrArg StopStage.steps hstopped
  have hspent : x.monitor.Spent :=
    ⟨hsound.started.2 (by simp [hstarted]), hsound.stopped.2 (by omega), hpolling, hprobing⟩
  refine ⟨?_, hspent.run⟩
  constructor
  · rintro ⟨hnone, -⟩
    exact hsession.1 hnone
  · intro hlate
    have hnone := hsession.2 hlate
    exact ⟨hnone, by simp [Relay.isConnected, hnone]⟩

/-- The start has connected before the stop closes what is held. -/
theorem no_session_unless_late_in_time :
    let settings := (Settings.new "gpu" "/run/gpu.sock").withDefaults
    let link := Link.new .inProcess .empty .silent
    let turns : List OverlapTurn :=
      [.start 0 .epoch, .stop, .start 0 .epoch, .stop, .start 0 .epoch, .stop, .stop,
        .start 0 .epoch, .stop, .stop]
    ∃ m, Monitor.new settings link = .ok m ∧
      let x := (Overlap.around m).run turns
      x.starting = .returned ∧ x.stopping = .returned ∧ x.monitor.relay.link.openCount = 1 ∧
        x.monitor.relay.connection.session = none ∧ x.monitor.relay.isConnected = false := by
  intro settings link turns
  have hnew := @Monitor.new_of_isOk settings link (by decide +kernel)
  refine ⟨_, hnew, ?_⟩
  intro x
  have hstarted : x.starting = .returned := by decide
  have hstopped : x.stopping = .returned := by decide
  obtain ⟨hreturned, -⟩ := no_session_unless_late hnew turns
  obtain ⟨hsession, -⟩ := hreturned hstarted hstopped
  exact ⟨hstarted, hstopped, by decide, hsession.2 (by decide)⟩

/-- The stop falls between the first step of the start and the second one, and is over before the
start connects. -/
theorem session_outlives_stop :
    let settings := (Settings.new "gpu" "/run/gpu.sock").withDefaults
    let link := Link.new .inProcess .empty .silent
    let turns : List OverlapTurn :=
      [.start 0 .epoch, .stop, .stop, .stop, .stop, .stop, .stop, .start 0 .epoch,
        .start 0 .epoch, .start 0 .epoch]
    ∃ m, Monitor.new settings link = .ok m ∧
      let x := (Overlap.around m).run turns
      x.starting = .returned ∧ x.stopping = .returned ∧
        x.monitor.relay.connection.session = some 0 ∧ x.monitor.relay.isConnected = true := by
  intro settings link turns
  have hnew := @Monitor.new_of_isOk settings link (by decide +kernel)
  refine ⟨_, hnew, ?_⟩
  decide

end HealthRelay
