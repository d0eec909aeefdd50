import HealthRelay.Proofs.Delivery
import HealthRelay.Proofs.Timeless

/-!
Two runs that differ in nothing but time come to the same: the wall clock decides nothing, and the
steady clock decides no more than how attempts to connect again begin.
-/
namespace HealthRelay

variable {r r' : Relay} {s s' : Scene} {clock : Nat → Nat} {now now' : Nat}

/-! Histories. -/

def Milestone.timeless (clock : Nat → Nat) : Milestone → Milestone
  | .began now delay => .began (clock now) delay
  | .abandoned now => .abandoned (clock now)
  | .accepted status => .accepted status.timeless
  | .received status => .received status.timeless
  | .connected => .connected
  | .reconnected => .reconnected
  | .failed e => .failed e
  | .succeeded => .succeeded

namespace Relay

theorem connectMilestones_timeless :
    (r.timeless clock).connectMilestones = r.connectMilestones.map (Milestone.timeless clock) := by
  simp only [connectMilestones, connect_timeless]
  split <;> rfl

theorem wakeMilestones_timeless :
    (r.timeless clock).wakeMilestones = r.wakeMilestones.map (Milestone.timeless clock) := by
  simp only [wakeMilestones, wakeAttempt_timeless]
  split <;> rfl

theorem onsetMilestones_alike (hnow : clock now = clock now')
    (honset : (r.beginAttempt now).1 = (r'.beginAttempt now').1) :
    (r.onsetMilestones now).map (Milestone.timeless clock) =
      (r'.onsetMilestones now').map (Milestone.timeless clock) := by
  simp only [onsetMilestones, honset]
  split
  · simp [Milestone.timeless, hnow]
  · rfl
  · simp [Milestone.timeless, hnow]

theorem attemptMilestones_alike (h : r.timeless clock = r'.timeless clock)
    (hnow : clock now = clock now') (honset : (r.beginAttempt now).1 = (r'.beginAttempt now').1) :
    (r.attemptMilestones now).map (Milestone.timeless clock) =
      (r'.attemptMilestones now').map (Milestone.timeless clock) := by
  have hbegun := beginAttempt_alike h hnow honset
  have hmilestones := onsetMilestones_alike hnow honset
  simp only [attemptMilestones]
  generalize r.beginAttempt now = x at honset hbegun ⊢
  generalize r'.beginAttempt now' = x' at honset hbegun ⊢
  obtain ⟨onset, begun⟩ := x
  obtain ⟨onset', begun'⟩ := x'
  obtain rfl : onset = onset' := honset
  cases onset with
  | refused outcome => exact hmilestones
  | waiting delay =>
    have hwoken := congrArg wakeMilestones hbegun
    rw [wakeMilestones_timeless, wakeMilestones_timeless] at hwoken
    rw [List.map_append, List.map_append, hmilestones, hwoken]

section

variable {attempt attempt' : Relay → List Milestone}
  (hattempt : ∀ u u' : Relay, u.timeless clock = u'.timeless clock →
    (u.beginAttempt now).1 = (u'.beginAttempt now').1 →
    (attempt u).map (Milestone.timeless clock) = (attempt' u').map (Milestone.timeless clock))
include hattempt

theorem failureMilestones_alike (h : r.timeless clock = r'.timeless clock) (e : CallError)
    (honset : r.failureOnset? now e = r'.failureOnset? now' e) :
    (r.failureMilestones attempt e).map (Milestone.timeless clock) =
      (r'.failureMilestones attempt' e).map (Milestone.timeless clock) := by
  obtain ⟨hforces, hrecorded⟩ := recordFailure_alike h e
  simp only [failureOnset?, failureMilestones] at honset ⊢
  generalize r.recordFailure e = x at hforces hrecorded honset ⊢
  generalize r'.recordFailure e = x' at hforces hrecorded honset ⊢
  obtain ⟨forces, recorded⟩ := x
  obtain ⟨forces', recorded'⟩ := x'
  obtain rfl : forces = forces' := hforces
  cases forces with
  | false => rfl
  | true =>
    have hbegun := hattempt recorded recorded' hrecorded (Option.some.inj honset)
    simp only [List.map_cons, hbegun]

theorem askMilestones_alike (h : r.timeless clock = r'.timeless clock)
    (honset : r.askOnset? now = r'.askOnset? now') :
    (r.askMilestones attempt).map (Milestone.timeless clock) =
      (r'.askMilestones attempt').map (Milestone.timeless clock) := by
  rw [askOnset?, askOnset?] at honset
  obtain ⟨hask, hask'⟩ | ⟨e, u, u', hask, hask', hu⟩ |
    ⟨report, report', u, u', hask, hask', -, -⟩ := ask?_alike h
  · simp only [askMilestones, hask, hask']
  · rw [hask, hask'] at honset
    simp only [askMilestones, hask, hask']
    exact failureMilestones_alike hattempt hu e honset
  · simp only [askMilestones, hask, hask']

end

end Relay

namespace Scene

def timeless (clock : Nat → Nat) (s : Scene) : Scene :=
  { s with poller := s.poller.timeless clock, history := s.history.map (Milestone.timeless clock) }

theorem poller_timeless : (s.timeless clock).poller = s.poller.timeless clock := rfl

theorem relay_timeless : (s.timeless clock).relay = s.relay.timeless clock := rfl

theorem outbox_timeless : (s.timeless clock).outbox = Stream.timeless s.outbox := rfl

theorem note_timeless (milestones : List Milestone) (r : Relay) :
    (s.note milestones r).timeless clock =
      (s.timeless clock).note (milestones.map (Milestone.timeless clock)) (r.timeless clock) := by
  simp only [timeless, note, List.map_append]
  rfl

theorem hand_timeless (milestones : List Milestone) (q : Stream) :
    (s.hand milestones q).timeless clock =
      (s.timeless clock).hand (milestones.map (Milestone.timeless clock)) q.timeless := by
  simp only [timeless, hand, List.map_append]
  rfl

theorem turn_timeless (milestones : List Milestone) (p : Poller) :
    (s.turn milestones p).timeless clock =
      (s.timeless clock).turn (milestones.map (Milestone.timeless clock)) (p.timeless clock) := by
  have htaken : (Stream.timeless s.outbox).taken (Stream.timeless p.outbox) =
      (s.outbox.taken p.outbox).map Status.timeless := by
    simp [Queue.taken, Stream.timeless]
  have haccepted (l : List Status) : (l.map Milestone.accepted).map (Milestone.timeless clock) =
      (l.map Status.timeless).map Milestone.accepted := by
    rw [List.map_map, List.map_map]
    rfl
  simp only [timeless, turn, List.map_append, haccepted, ← htaken]
  rfl

theorem note_alike {milestones milestones' : List Milestone}
    (h : s.timeless clock = s'.timeless clock)
    (hmilestones : milestones.map (Milestone.timeless clock) =
      milestones'.map (Milestone.timeless clock))
    (hr : r.timeless clock = r'.timeless clock) :
    (s.note milestones r).timeless clock = (s'.note milestones' r').timeless clock := by
  rw [note_timeless, note_timeless, h, hmilestones, hr]

theorem turn_alike {milestones milestones' : List Milestone} {p p' : Poller}
    (h : s.timeless clock = s'.timeless clock)
    (hmilestones : milestones.map (Milestone.timeless clock) =
      milestones'.map (Milestone.timeless clock))
    (hp : p.timeless clock = p'.timeless clock) :
    (s.turn milestones p).timeless clock = (s'.turn milestones' p').timeless clock := by
  rw [turn_timeless, turn_timeless, h, hmilestones, hp]

theorem fallAsleep_alike (h : s.timeless clock = s'.timeless clock) (delay : Option Duration) :
    (s.fallAsleep delay).timeless clock = (s'.fallAsleep delay).timeless clock :=
  congrArg (fallAsleep delay) h

/-- How the attempt begins that an action leads to, if it leads to one. -/
def onset? (s : Scene) : Action → Option Onset
  | .attempt now | .beginAttempt now => some (s.relay.beginAttempt now).1
  | .fail now e | .beginFail now e => s.relay.failureOnset? now e
  | .poll now _ | .beginPoll now _ =>
    if s.outbox.senderOpen then s.relay.askOnset? now else none
  | _ => none

/-- What came of an action, if it is a poll. -/
def outcome? (s : Scene) : Action → Option PollOutcome
  | .poll now stamp => if s.outbox.senderOpen then some (s.poller.poll now stamp).1 else none
  | .beginPoll now stamp =>
    if s.outbox.senderOpen then some (s.poller.beginPoll now stamp).1 else none
  | _ => none

/-- What each action of a run is seen to do. -/
def each {α : Type} (view : Scene → Action → α) (s : Scene) : List Action → List α
  | [] => []
  | a :: actions => view s a :: each view (s.perform a) actions

end Scene

namespace Action

def timeless (clock : Nat → Nat) : Action → Action
  | .attempt now => .attempt (clock now)
  | .fail now e => .fail (clock now) e
  | .sendInitial _ => .sendInitial .epoch
  | .poll now _ => .poll (clock now) .epoch
  | .beginAttempt now => .beginAttempt (clock now)
  | .beginFail now e => .beginFail (clock now) e
  | .beginPoll now _ => .beginPoll (clock now) .epoch
  | a => a

/-- The steady clock is read. -/
def isTimed : Action → Bool
  | .attempt _ | .fail _ _ | .poll _ _ | .beginAttempt _ | .beginFail _ _ | .beginPoll _ _ => true
  | _ => false

theorem isTimed_timeless (clock : Nat → Nat) (a : Action) :
    (a.timeless clock).isTimed = a.isTimed := by
  cases a <;> rfl

end Action

namespace Scene

theorem outcome?_of_not_timed (s : Scene) {a : Action} (h : a.isTimed = false) :
    s.outcome? a = none := by
  cases a <;> first | rfl | cases h

theorem wake_timeless (s : Scene) : s.wake.timeless clock = (s.timeless clock).wake := by
  have hnote : (s.note s.relay.wakeMilestones s.relay.wakeAttempt.2).timeless clock = _ :=
    note_timeless _ _
  simp only [wake, relay_timeless, Relay.wakeMilestones_timeless, Relay.wakeAttempt_timeless,
    ← hnote]
  rfl

theorem finish_timeless (s : Scene) : s.finish.timeless clock = (s.timeless clock).finish := by
  have hnote : (s.note [] s.relay.endAttempt).timeless clock =
      (s.timeless clock).note [] (s.timeless clock).relay.endAttempt := note_timeless _ _
  simp only [finish, ← hnote]
  rfl

theorem receive_timeless (s : Scene) (w : Receive) :
    (s.perform w.action).timeless clock = (s.timeless clock).perform w.action := by
  cases hitems : s.outbox.items with
  | nil =>
    have hitems' : (s.timeless clock).outbox.items = [] := by
      simp [outbox_timeless, Stream.timeless, hitems]
    rw [perform_receive_of_empty w hitems, perform_receive_of_empty w hitems']
  | cons status rest =>
    have hitems' : (s.timeless clock).outbox.items =
        status.timeless :: rest.map Status.timeless := by
      simp [outbox_timeless, Stream.timeless, hitems]
    rw [perform_receive_of_items w hitems, perform_receive_of_items w hitems']
    exact hand_timeless _ _

/-- An action that does not read the steady clock does the same with and without the time. -/
theorem perform_timeless (s : Scene) (a : Action) (h : a.isTimed = false) :
    (s.perform a).timeless clock = (s.timeless clock).perform (a.timeless clock) := by
  cases a with
  | attempt | fail | poll | beginAttempt | beginFail | beginPoll => cases h
  | connect =>
    simp only [perform, Action.timeless, note_timeless, relay_timeless,
      Relay.connectMilestones_timeless, Relay.connect_timeless]
  | succeed => exact note_timeless _ _
  | closeSession =>
    simp only [perform, Action.timeless, note_timeless, relay_timeless, Relay.closeSession_timeless,
      List.map_nil]
  | sendInitial stamp =>
    have hopen : (s.timeless clock).outbox.senderOpen = s.outbox.senderOpen := rfl
    simp only [perform, Action.timeless, work, hopen]
    split
    · simp only [turn_timeless, poller_timeless, Poller.sendInitial_timeless stamp, List.map_nil]
    · rfl
  | wake =>
    have hasleep : (s.timeless clock).asleep = s.asleep := rfl
    simp only [perform, Action.timeless, hasleep]
    split
    · exact s.wake_timeless
    · rfl
  | finish =>
    have hending : (s.timeless clock).ending = s.ending := rfl
    simp only [perform, Action.timeless, hending]
    split
    · exact s.finish_timeless
    · rfl
  | sever =>
    have hlink : (s.timeless clock).relay.link.sever = s.relay.link.sever.timeless :=
      s.relay.link.sever_timeless
    simp only [perform, Action.timeless, note_timeless, hlink]
    rfl
  | setReachable reachable => exact note_timeless _ _
  | setFiles files => exact note_timeless _ _
  | signal => exact note_timeless _ _
  | tryRecv => exact s.receive_timeless .tryRecv
  | recvTimeout limit => exact s.receive_timeless (.recvTimeout limit)
  | recv => exact s.receive_timeless .recv
  | leave => exact hand_timeless _ _
  | retire => exact hand_timeless _ _

theorem senderOpen_alike (h : s.timeless clock = s'.timeless clock) :
    s.outbox.senderOpen = s'.outbox.senderOpen := by
  have hopen : (s.timeless clock).outbox.senderOpen = (s'.timeless clock).outbox.senderOpen := by
    rw [h]
  exact hopen

section

variable (h : s.timeless clock = s'.timeless clock) (hnow : clock now = clock now')
include h hnow

theorem beginAttempt_alike
    (honset : (s.relay.beginAttempt now).1 = (s'.relay.beginAttempt now').1) :
    (s.beginAttempt now).timeless clock = (s'.beginAttempt now').timeless clock := by
  have hrelay : s.relay.timeless clock = s'.relay.timeless clock := congrArg relay h
  have hnote := note_alike h (Relay.onsetMilestones_alike hnow honset)
    (Relay.beginAttempt_alike hrelay hnow honset)
  simp only [beginAttempt, honset]
  exact fallAsleep_alike hnote _

theorem perform_fail_alike (e : CallError)
    (honset : s.relay.failureOnset? now e = s'.relay.failureOnset? now' e) :
    (s.perform (.fail now e)).timeless clock = (s'.perform (.fail now' e)).timeless clock := by
  have hrelay : s.relay.timeless clock = s'.relay.timeless clock := congrArg relay h
  have hmilestones := Relay.failureMilestones_alike (fun u u' hu hbegin =>
    Relay.attemptMilestones_alike hu hnow hbegin) hrelay e honset
  exact note_alike h hmilestones (Relay.handleFailure_alike hrelay hnow e honset)

theorem perform_beginFail_alike (e : CallError)
    (honset : s.relay.failureOnset? now e = s'.relay.failureOnset? now' e) :
    (s.perform (.beginFail now e)).timeless clock =
      (s'.perform (.beginFail now' e)).timeless clock := by
  have hrelay : s.relay.timeless clock = s'.relay.timeless clock := congrArg relay h
  have hmilestones := Relay.failureMilestones_alike (fun _ _ _ hbegin =>
    Relay.onsetMilestones_alike hnow hbegin) hrelay e honset
  obtain ⟨hdelay, hbegun⟩ := Relay.beginFailure_alike hrelay hnow e honset
  have hnote := note_alike h hmilestones hbegun
  simp only [perform, hdelay]
  exact fallAsleep_alike hnote _

theorem perform_poll_alike (stamp stamp' : Timestamp)
    (honset : s.onset? (.poll now stamp) = s'.onset? (.poll now' stamp')) :
    (s.perform (.poll now stamp)).timeless clock =
        (s'.perform (.poll now' stamp')).timeless clock ∧
      s.outcome? (.poll now stamp) = s'.outcome? (.poll now' stamp') := by
  have hopen := senderOpen_alike h
  have hrelay : s.relay.timeless clock = s'.relay.timeless clock := congrArg relay h
  have hpoller : s.poller.timeless clock = s'.poller.timeless clock := congrArg poller h
  simp only [onset?, outcome?, perform, work, hopen] at honset ⊢
  split
  · next hsender =>
    rw [if_pos hsender, if_pos hsender] at honset
    obtain ⟨houtcome, hp⟩ := Poller.poll_alike hpoller hnow honset
    have hmilestones := Relay.askMilestones_alike (fun u u' hu hbegin =>
      Relay.attemptMilestones_alike hu hnow hbegin) hrelay honset
    exact ⟨turn_alike h hmilestones hp, congrArg some houtcome⟩
  · exact ⟨h, rfl⟩

theorem perform_beginPoll_alike (stamp stamp' : Timestamp)
    (honset : s.onset? (.beginPoll now stamp) = s'.onset? (.beginPoll now' stamp')) :
    (s.perform (.beginPoll now stamp)).timeless clock =
        (s'.perform (.beginPoll now' stamp')).timeless clock ∧
      s.outcome? (.beginPoll now stamp) = s'.outcome? (.beginPoll now' stamp') := by
  have hopen := senderOpen_alike h
  have hrelay : s.relay.timeless clock = s'.relay.timeless clock := congrArg relay h
  have hpoller : s.poller.timeless clock = s'.poller.timeless clock := congrArg poller h
  simp only [onset?, outcome?, perform, work, hopen] at honset ⊢
  split
  · next hsender =>
    rw [if_pos hsender, if_pos hsender] at honset
    obtain ⟨houtcome, hdelay, hp⟩ := Poller.beginPoll_alike hpoller hnow honset
    have hmilestones := Relay.askMilestones_alike (fun _ _ _ hbegin =>
      Relay.onsetMilestones_alike hnow hbegin) hrelay honset
    have hturn := turn_alike h hmilestones hp
    rw [hdelay]
    exact ⟨fallAsleep_alike hturn _, congrArg some houtcome⟩
  · exact ⟨h, rfl⟩

end

/-- One action has alike scenes do the same, given that an attempt it leads to begins alike. -/
theorem perform_alike {a a' : Action} (h : s.timeless clock = s'.timeless clock)
    (ha : a.timeless clock = a'.timeless clock) (honset : s.onset? a = s'.onset? a') :
    (s.perform a).timeless clock = (s'.perform a').timeless clock ∧
      s.outcome? a = s'.outcome? a' := by
  -- The relay that the time was taken from may begin an attempt where the relay itself may not: for
  -- actions that read the steady clock it is the two scenes that are compared.
  cases htimed : a.isTimed with
  | false =>
    have htimed' : a'.isTimed = false := by
      rw [← a'.isTimed_timeless clock, ← ha, a.isTimed_timeless clock, htimed]
    rw [perform_timeless s a htimed, perform_timeless s' a' htimed', h, ha,
      outcome?_of_not_timed s htimed, outcome?_of_not_timed s' htimed']
    exact ⟨rfl, rfl⟩
  | true =>
    have hrelay : s.relay.timeless clock = s'.relay.timeless clock := congrArg relay h
    cases a with
    | attempt now =>
      cases a' with
      | attempt now' =>
        have hnow := Action.attempt.inj ha
        have hbegin := Option.some.inj honset
        exact ⟨note_alike h (Relay.attemptMilestones_alike hrelay hnow hbegin)
          (Relay.attemptReconnection_alike hrelay hnow hbegin), rfl⟩
      | _ => cases ha
    | fail now e =>
      cases a' with
      | fail now' e' =>
        obtain ⟨hnow, rfl⟩ := Action.fail.inj ha
        exact ⟨perform_fail_alike h hnow e honset, rfl⟩
      | _ => cases ha
    | poll now stamp =>
      cases a' with
      | poll now' stamp' =>
        have hnow := (Action.poll.inj ha).1
        exact perform_poll_alike h hnow stamp stamp' honset
      | _ => cases ha
    | beginAttempt now =>
      cases a' with
      | beginAttempt now' =>
        have hnow := Action.beginAttempt.inj ha
        exact ⟨beginAttempt_alike h hnow (Option.some.inj honset), rfl⟩
      | _ => cases ha
    | beginFail now e =>
      cases a' with
      | beginFail now' e' =>
        obtain ⟨hnow, rfl⟩ := Action.beginFail.inj ha
        exact ⟨perform_beginFail_alike h hnow e honset, rfl⟩
      | _ => cases ha
    | beginPoll now stamp =>
      cases a' with
      | beginPoll now' stamp' =>
        have hnow := (Action.beginPoll.inj ha).1
        exact perform_beginPoll_alike h hnow stamp stamp' honset
      | _ => cases ha
    | _ => cases htimed

/-- Alike actions have alike scenes do the same, given that all attempts begin alike. -/
theorem run_alike {actions actions' : List Action} (h : s.timeless clock = s'.timeless clock)
    (hactions : actions.map (Action.timeless clock) = actions'.map (Action.timeless clock))
    (honsets : each onset? s actions = each onset? s' actions') :
    (s.run actions).timeless clock = (s'.run actions').timeless clock ∧
      each outcome? s actions = each outcome? s' actions' := by
  induction actions generalizing s s' actions' with
  | nil =>
    obtain rfl : actions' = [] := List.map_eq_nil_iff.1 hactions.symm
    exact ⟨h, rfl⟩
  | cons a actions ih =>
    cases actions' with
    | nil => cases hactions
    | cons a' actions' =>
      obtain ⟨ha, hrest⟩ := List.cons.inj hactions
      obtain ⟨honset, honsets⟩ := List.cons.inj honsets
      obtain ⟨hnext, houtcome⟩ := perform_alike h ha honset
      obtain ⟨hend, houtcomes⟩ := ih hnext hrest honsets
      exact ⟨hend, by rw [each, each, houtcome, houtcomes]⟩

end Scene

/-! The same readings of the steady clock. -/

namespace Relay

/-- Whether an attempt may begin depends on nothing else of the relay. -/
theorem beginAttempt_fst_congr
    (hreconnecting : r.connection.reconnecting = r'.connection.reconnecting)
    (hlast : r.connection.lastAttempt = r'.connection.lastAttempt)
    (hattempts : r.connection.attempts = r'.connection.attempts) (hretry : r.retry = r'.retry) :
    (r.beginAttempt now).1 = (r'.beginAttempt now).1 := by
  simp only [beginAttempt, Connection.isTooSoon, hreconnecting, hlast, hattempts, hretry]
  split
  · rfl
  · split
    · rfl
    · split <;> rfl

theorem connection_eq_of_alike (h : r.timeless id = r'.timeless id) :
    r.connection = r'.connection := by
  have hconnection : r.connection.timeless id = r'.connection.timeless id :=
    congrArg Relay.connection h
  have hid (c : Connection) : c.timeless id = c := by
    rw [Connection.timeless, Option.map_id]
    rfl
  rwa [hid, hid] at hconnection

theorem onset_alike (h : r.timeless id = r'.timeless id) :
    (r.beginAttempt now).1 = (r'.beginAttempt now).1 := by
  have hretry : (r.timeless id).retry = (r'.timeless id).retry := congrArg retry h
  have hconnection := connection_eq_of_alike h
  exact beginAttempt_fst_congr (by rw [hconnection]) (by rw [hconnection]) (by rw [hconnection])
    hretry

theorem failureOnset?_alike (h : r.timeless id = r'.timeless id) (e : CallError) :
    r.failureOnset? now e = r'.failureOnset? now e := by
  obtain ⟨hforces, hrecorded⟩ := recordFailure_alike h e
  rw [failureOnset?, failureOnset?, hforces, onset_alike hrecorded]

theorem askOnset?_alike (h : r.timeless id = r'.timeless id) :
    r.askOnset? now = r'.askOnset? now := by
  rw [askOnset?, askOnset?]
  obtain ⟨hask, hask'⟩ | ⟨e, u, u', hask, hask', hu⟩ |
    ⟨report, report', u, u', hask, hask', -, -⟩ := ask?_alike h
  · rw [hask, hask']
  · rw [hask, hask']
    exact failureOnset?_alike hu e
  · rw [hask, hask']

end Relay

namespace Scene

theorem onset?_timeless (s : Scene) (a : Action) :
    s.onset? (a.timeless id) = s.onset? a := by
  cases a <;> rfl

theorem onset?_alike {a a' : Action} (h : s.timeless id = s'.timeless id)
    (ha : a.timeless id = a'.timeless id) : s.onset? a = s'.onset? a' := by
  have hrelay : s.relay.timeless id = s'.relay.timeless id := congrArg relay h
  have hopen := senderOpen_alike h
  rw [← s.onset?_timeless, ← s'.onset?_timeless, ← ha]
  cases a.timeless id with
  | attempt now | beginAttempt now => exact congrArg some (Relay.onset_alike hrelay)
  | fail now e | beginFail now e => exact Relay.failureOnset?_alike hrelay e
  | poll now stamp | beginPoll now stamp =>
    simp only [onset?, hopen, Relay.askOnset?_alike hrelay]
  | _ => rfl

theorem onsets_alike {actions actions' : List Action} (h : s.timeless id = s'.timeless id)
    (hactions : actions.map (Action.timeless id) = actions'.map (Action.timeless id)) :
    each onset? s actions = each onset? s' actions' := by
  induction actions generalizing s s' actions' with
  | nil =>
    obtain rfl : actions' = [] := List.map_eq_nil_iff.1 hactions.symm
    rfl
  | cons a actions ih =>
    cases actions' with
    | nil => cases hactions
    | cons a' actions' =>
      obtain ⟨ha, hrest⟩ := List.cons.inj hactions
      have honset := onset?_alike h ha
      rw [each, each, honset, ih (perform_alike h ha honset).1 hrest]

theorem sent_timeless (s : Scene) : (s.timeless clock).sent = s.sent.map Status.timeless := by
  have haccepted (m : Milestone) :
      (m.timeless clock).accepted? = m.accepted?.map Status.timeless := by
    cases m <;> rfl
  simp only [sent, timeless, List.filterMap_map, List.map_filterMap]
  exact congrArg (s.history.filterMap ·) (funext haccepted)

end Scene

/-- What a monitor begins with, but for what its plugin says of time. -/
def Beginning.timeless (b : Beginning) : Beginning := { b with plugin := b.plugin.timeless }

theorem Beginning.scene_timeless (b : Beginning) (clock : Nat → Nat) :
    b.timeless.scene = b.scene.timeless clock := rfl

/-- Two runs differ in the times that the plugin gives, in what the wall clock says at each poll and
at the report before the first, and in the readings of the steady clock. If attempts to connect
again begin alike, all polls come to the same, with the same counts and the same connection, but
for the time of the last attempt, and the queue takes the same reports, but for the times in them.
Attempts do begin alike when the readings of the steady clock are the same. -/
theorem clocks_decide_nothing {b b' : Beginning} (hb : b.timeless = b'.timeless)
    {actions actions' : List Action}
    (hactions : actions.map (Action.timeless fun _ => 0) =
      actions'.map (Action.timeless fun _ => 0)) :
    let t := b.scene.run actions
    let t' := b'.scene.run actions'
    (Scene.each Scene.onset? b.scene actions = Scene.each Scene.onset? b'.scene actions' →
      Scene.each Scene.outcome? b.scene actions = Scene.each Scene.outcome? b'.scene actions' ∧
      t.relay.sequence = t'.relay.sequence ∧ t.relay.dropped = t'.relay.dropped ∧
      t.relay.connection.timeless (fun _ => 0) = t'.relay.connection.timeless (fun _ => 0) ∧
      t.sent.map Status.timeless = t'.sent.map Status.timeless) ∧
    (actions.map (Action.timeless id) = actions'.map (Action.timeless id) →
      Scene.each Scene.onset? b.scene actions = Scene.each Scene.onset? b'.scene actions' ∧
      t.relay.connection = t'.relay.connection) := by
  intro t t'
  have hbegin (clock : Nat → Nat) : b.scene.timeless clock = b'.scene.timeless clock := by
    rw [← b.scene_timeless, hb, b'.scene_timeless]
  constructor
  · intro honsets
    obtain ⟨ht, houtcomes⟩ := Scene.run_alike (hbegin _) hactions honsets
    have hrelay : t.relay.timeless (fun _ => 0) = t'.relay.timeless (fun _ => 0) :=
      congrArg Scene.relay ht
    have hsequence : (t.relay.timeless fun _ => 0).sequence =
        (t'.relay.timeless fun _ => 0).sequence := congrArg Relay.sequence hrelay
    have hdropped : (t.relay.timeless fun _ => 0).dropped =
        (t'.relay.timeless fun _ => 0).dropped := congrArg Relay.dropped hrelay
    have hconnection : (t.relay.timeless fun _ => 0).connection =
        (t'.relay.timeless fun _ => 0).connection := congrArg Relay.connection hrelay
    have hsent : t.sent.map Status.timeless = t'.sent.map Status.timeless := by
      rw [← t.sent_timeless, ← t'.sent_timeless, ht]
    exact ⟨houtcomes, hsequence, hdropped, hconnection, hsent⟩
  · intro hsteady
    have honsets := Scene.onsets_alike (hbegin id) hsteady
    have ht := (Scene.run_alike (hbegin id) hsteady honsets).1
    have hrelay : t.relay.timeless id = t'.relay.timeless id := congrArg Scene.relay ht
    exact ⟨honsets, Relay.connection_eq_of_alike hrelay⟩

/-- The same report with a time and without one, polled at the epoch and a minute before it, and
repeated after an attempt to connect again has begun. -/
theorem clocks_decide_nothing_of_two :
    let settings := (Settings.new "gpu" "/run/gpu.sock").withDefaults
    let report (transition : Option Plugin.Instant) : Plugin.Report :=
      ⟨"gpu", [], [⟨"GPUHealthy", 1, transition, "Hot", "92C"⟩]⟩
    let plugin (transition : Option Plugin.Instant) :=
      Plugin.ofAnswers [.ok (report transition), .ok (report none)] [] []
    let b : Beginning := ⟨settings, .inProcess, .empty, plugin (some ⟨5, 0⟩), some 2⟩
    let b' : Beginning := ⟨settings, .inProcess, .empty, plugin none, some 2⟩
    let old : Timestamp := ⟨-60, 0, by decide, by decide, by decide, by decide⟩
    let actions : List Action := [.connect, .poll 0 .epoch, .beginAttempt 1, .poll 2 .epoch]
    let actions' : List Action := [.connect, .poll 7 old, .beginAttempt 9, .poll 9 .epoch]
    b.timeless = b'.timeless ∧
    actions.map (Action.timeless fun _ => 0) = actions'.map (Action.timeless fun _ => 0) ∧
    Scene.each Scene.onset? b.scene actions = Scene.each Scene.onset? b'.scene actions' ∧
    Scene.each Scene.outcome? b'.scene actions' = [none, some .emitted, none, some .unchanged] ∧
    (b.scene.run actions).sent.map Status.timeless =
      (b'.scene.run actions').sent.map Status.timeless ∧
    (b.scene.run actions).sent ≠ (b'.scene.run actions').sent := by
  intro settings report plugin b b' old actions actions'
  have hb : b.timeless = b'.timeless := rfl
  have hactions : actions.map (Action.timeless fun _ => 0) =
      actions'.map (Action.timeless fun _ => 0) := rfl
  have honsets : Scene.each Scene.onset? b.scene actions =
      Scene.each Scene.onset? b'.scene actions' := by decide +kernel
  obtain ⟨houtcomes, -, -, -, hsent⟩ := (clocks_decide_nothing hb hactions).1 honsets
  refine ⟨hb, hactions, honsets, ?_, hsent, by decide⟩
  rw [← houtcomes]
  decide

end HealthRelay
