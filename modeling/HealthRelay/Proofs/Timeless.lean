import HealthRelay.Proofs.Frame
import HealthRelay.Proofs.LastSent

/-!
What is left of things when the time is taken from them: a point in time is dropped, or put to the
beginning of 1970 where there must be one. Readings of the steady clock, which tell how long ago
the last attempt was, may be changed by any function.

Everything a relay and its poller do is the same with and without the time, but for the beginning
of an attempt to connect again.
-/
namespace HealthRelay

variable {α β : Type} {l : Link} {r r' : Relay} {clock : Nat → Nat} {id now now' : Nat}

/-! Plugins. -/

namespace Plugin

def Event.timeless (e : Event) : Event := { e with timestamp := none }

def Condition.timeless (c : Condition) : Condition := { c with transition := none }

def Report.timeless (r : Report) : Report :=
  { r with events := r.events.map .timeless, conditions := r.conditions.map .timeless }

def Script.map (f : α → β) (s : Script α) : Script β := ⟨f s.next, s.later.map f⟩

theorem Script.advance_map (f : α → β) (s : Script α) : (s.map f).advance = s.advance.map f := by
  rcases s with ⟨next, _ | ⟨second, later⟩⟩ <;> rfl

end Plugin

def Plugin.timeless (p : Plugin) : Plugin :=
  { p with health := p.health.map (Except.map Plugin.Report.timeless) }

theorem Plugin.checkHealth_timeless (p : Plugin) (sequence : Int) (parameters : Table String) :
    p.timeless.checkHealth sequence parameters =
      ((p.checkHealth sequence parameters).1.map Plugin.Report.timeless,
        (p.checkHealth sequence parameters).2.timeless) := by
  simp only [checkHealth, timeless, Script.advance_map]
  rfl

/-! Reports. -/

def Event.timeless (e : Event) : Event := { e with timestamp := .epoch }

def Condition.timeless (c : Condition) : Condition := { c with transition := .epoch }

namespace Status

def timeless (s : Status) : Status :=
  { s with events := s.events.map .timeless, conditions := s.conditions.map .timeless }

/-- When a report was received makes a difference only to its times. -/
theorem ofReport_timeless (stamp : Timestamp) (report : Plugin.Report) :
    ofReport .epoch report.timeless = (ofReport stamp report).timeless := by
  simp only [ofReport, timeless, Plugin.Report.timeless, List.map_map]
  rfl

theorem initial_timeless (source : String) (definitions : List ConditionDefinition)
    (stamp : Timestamp) :
    initial source definitions .epoch = (initial source definitions stamp).timeless := by
  simp only [initial, timeless, List.map_map]
  rfl

theorem conditionsEqual_timeless (a b : List Condition) :
    conditionsEqual (a.map .timeless) (b.map .timeless) = conditionsEqual a b := by
  rw [Bool.eq_iff_iff, conditionsEqual_iff, conditionsEqual_iff, List.map_map, List.map_map]
  rfl

/-- What counts as news has nothing to do with time. -/
theorem shouldEmit_timeless (last : Option Status) (next : Status) :
    shouldEmit (last.map timeless) next.timeless = shouldEmit last next := by
  cases last with
  | none => rfl
  | some last => simp [shouldEmit, timeless, conditionsEqual_timeless]

end Status

/-! Links. -/

namespace Link

def timeless (l : Link) : Link := { l with plugin := l.plugin.timeless }

theorem deliver_map (f : α → β) (transport : Transport) (answer : Except Refusal α) :
    transport.deliver (answer.map f) = (transport.deliver answer).map f := by
  rcases answer with ⟨code, message⟩ | a
  · cases transport <;> cases code <;> rfl
  · rfl

theorem code?_map (f : α → β) (answer : Except Refusal α) :
    Refusal.code? (answer.map f) = Refusal.code? answer := by
  cases answer <;> rfl

theorem mapError_map (f : α → β) (operation : String) (answer : Except Refusal α) :
    (answer.map f).mapError (CallError.ofRefusal operation) =
      (answer.mapError (.ofRefusal operation)).map f := by
  cases answer <;> rfl

section

variable (f : α → α) {ask : Plugin → Except Refusal α × Plugin}
  (hask : ask l.plugin.timeless = ((ask l.plugin).1.map f, (ask l.plugin).2.timeless))
include hask

theorem exchange_timeless (session : Session) :
    l.timeless.exchange session ask =
      ((l.exchange session ask).1.map f, (l.exchange session ask).2.timeless) := by
  have hlistening : l.timeless.isListening session.endpoint = l.isListening session.endpoint := rfl
  simp only [exchange, hlistening]
  split
  · simp only [timeless, hask, deliver_map]
  · rfl

/-- A call whose answer may tell of time leaves the same behind with and without it. -/
theorem call_timeless (operation : String) :
    l.timeless.call id operation ask =
      ((l.call id operation ask).1.map f, (l.call id operation ask).2.timeless) := by
  have hsessions : l.timeless.sessions = l.sessions := rfl
  have htransport : l.timeless.transport = l.transport := rfl
  simp only [call, hsessions, htransport]
  rcases l.sessions[id]? with _ | session
  · rfl
  · simp only
    rcases session.state.refusal? l.transport with _ | detail
    · simp only [exchange_timeless f hask, mapError_map, code?_map]
      rfl
    · rfl

end

theorem checkHealth_timeless (l : Link) (id : Nat) (sequence : Int) (parameters : Table String) :
    l.timeless.checkHealth id sequence parameters =
      ((l.checkHealth id sequence parameters).1.map Plugin.Report.timeless,
        (l.checkHealth id sequence parameters).2.timeless) :=
  call_timeless _ (l.plugin.checkHealth_timeless sequence parameters) _

theorem getMetadata_timeless (l : Link) (id : Nat) :
    l.timeless.getMetadata id = ((l.getMetadata id).1, (l.getMetadata id).2.timeless) := by
  have hmap (answer : Except CallError Plugin.Metadata) : answer.map (fun a => a) = answer := by
    cases answer <;> rfl
  have hask : l.plugin.timeless.getMetadata =
      (l.plugin.getMetadata.1.map fun a => a, l.plugin.getMetadata.2.timeless) := by
    cases h : l.plugin.metadata.next <;> simp [Plugin.getMetadata, Plugin.timeless, h, Except.map]
  rw [getMetadata, call_timeless _ hask getMetadataOperation, hmap]
  rfl

theorem dial_timeless (l : Link) (endpoint : String) :
    l.timeless.dial endpoint =
      (l.dial endpoint).map fun (session, l) => (session, l.timeless) := by
  have hobstacle : l.timeless.obstacle? endpoint = l.obstacle? endpoint := rfl
  simp only [dial, hobstacle]
  rcases l.obstacle? endpoint with _ | e <;> rfl

theorem sever_timeless (l : Link) : l.timeless.sever = l.sever.timeless := by
  simp only [sever, timeless]
  split <;> rfl

end Link

/-! Relays. -/

def Connection.timeless (clock : Nat → Nat) (c : Connection) : Connection :=
  { c with lastAttempt := c.lastAttempt.map clock }

namespace Relay

def timeless (clock : Nat → Nat) (r : Relay) : Relay :=
  { r with link := r.link.timeless, connection := r.connection.timeless clock }

theorem closeSession_timeless :
    (r.timeless clock).closeSession = r.closeSession.timeless clock := by
  simp only [closeSession, timeless, Connection.timeless]
  rcases r.connection.session with _ | session <;> rfl

theorem identify_timeless (session : Nat) :
    (r.timeless clock).identify session = (r.identify session).timeless clock := by
  have hlink := r.link.getMetadata_timeless session
  simp only [identify, timeless, hlink]
  rcases (r.link.getMetadata session).1 with e | metadata
  · simp only
    split <;> rfl
  · rfl

theorem connect_timeless :
    (r.timeless clock).connect = (r.connect.1, r.connect.2.timeless clock) := by
  have hdial : (r.closeSession.timeless clock).link.dial (r.closeSession.timeless clock).endpoint =
      (r.closeSession.link.dial r.closeSession.endpoint).map fun (session, l) =>
        (session, l.timeless) :=
    Link.dial_timeless _ _
  simp only [connect, closeSession_timeless, hdial]
  rcases r.closeSession.link.dial r.closeSession.endpoint with e | ⟨session, link⟩
  · rfl
  · simp only [Except.map, ← identify_timeless]
    rfl

theorem remarkFailure_timeless (e : CallError) :
    (r.timeless clock).remarkFailure e = (r.remarkFailure e).timeless clock := by
  simp only [remarkFailure]
  split <;> rfl

theorem recordFailure_timeless (e : CallError) :
    (r.timeless clock).recordFailure e =
      ((r.recordFailure e).1, (r.recordFailure e).2.timeless clock) := by
  have hthreshold : ((r.remarkFailure e).timeless clock).settings.errorThreshold =
      (r.remarkFailure e).settings.errorThreshold := rfl
  have herrors (disconnects : Bool) :
      (((r.remarkFailure e).timeless clock).connection.countError disconnects).errors =
        ((r.remarkFailure e).connection.countError disconnects).errors := rfl
  simp only [recordFailure, remarkFailure_timeless, hthreshold, herrors]
  split
  · split <;> rfl
  · rfl

theorem wakeAttempt_timeless :
    (r.timeless clock).wakeAttempt = (r.wakeAttempt.1, r.wakeAttempt.2.timeless clock) := by
  have hstopping : (r.timeless clock).stopping = r.stopping := rfl
  have hlookup : (r.timeless clock).link.files.lookup (r.timeless clock).endpoint =
      r.link.files.lookup r.endpoint := rfl
  simp only [wakeAttempt, hstopping, hlookup, connect_timeless]
  split
  · rfl
  · rcases r.link.files.lookup r.endpoint with e | entry
    · rfl
    · rcases r.connect with ⟨e | _, woken⟩ <;> rfl

theorem finishAttempt_timeless :
    (r.timeless clock).finishAttempt =
      (r.finishAttempt.1, r.finishAttempt.2.timeless clock) := by
  simp only [finishAttempt, wakeAttempt_timeless]
  rfl

theorem ask?_timeless :
    (r.timeless clock).ask? =
      r.ask?.map fun (answer, r) => (answer.map Plugin.Report.timeless, r.timeless clock) := by
  have hlive : (r.timeless clock).liveSession? = r.liveSession? := rfl
  simp only [ask?, hlive]
  rcases r.liveSession? with _ | session
  · rfl
  · have hcall := r.link.checkHealth_timeless session (r.sequence + 1 : Nat)
      r.settings.pluginSettings.parameters
    simp only [Option.map_some, advanceSequence, timeless, hcall]

/-- As if no attempt had been made so far. -/
def rested (r : Relay) : Relay :=
  { r with connection := { r.connection with lastAttempt := none } }

/-- An attempt that is not too soon begins as if none had been made so far. -/
theorem beginAttempt_rested (hidle : r.connection.reconnecting = false)
    (htimely : r.connection.isTooSoon now = false) :
    r.beginAttempt now = r.rested.beginAttempt now := by
  have hidle' : r.rested.connection.reconnecting = false := hidle
  have htimely' : r.rested.connection.isTooSoon now = false := rfl
  simp only [beginAttempt, hidle, hidle', htimely, htimely', Bool.false_eq_true, if_false]
  rfl

theorem beginAttempt_snd_eq :
    (r.beginAttempt now).2 =
      match (r.beginAttempt now).1 with
      | .refused .gaveUp | .waiting _ => (r.rested.beginAttempt now).2
      | .refused _ => r := by
  obtain ⟨-, heq⟩ | ⟨-, -, heq⟩ | ⟨hidle, htimely, -, journal, heq⟩ |
    ⟨hidle, htimely, -, journal, heq⟩ := r.beginAttempt_cases now
  · rw [heq]
  · rw [heq]
  · rw [← beginAttempt_rested hidle htimely, heq]
  · rw [← beginAttempt_rested hidle htimely, heq]

theorem beginAttempt_rested_timeless :
    (r.rested.timeless clock).beginAttempt (clock now) =
      ((r.rested.beginAttempt now).1, (r.rested.beginAttempt now).2.timeless clock) := by
  have htimely (now : Nat) : r.rested.connection.isTooSoon now = false := rfl
  have hconnection : (r.rested.timeless clock).connection = r.rested.connection := rfl
  have hretry : (r.rested.timeless clock).retry = r.rested.retry := rfl
  simp only [beginAttempt, htimely, hconnection, hretry, Bool.false_eq_true, if_false]
  split
  · rfl
  · split
    · split <;> rfl
    · rfl

/-- Alike relays begin an attempt alike when they agree on whether it may begin. -/
theorem beginAttempt_alike (h : r.timeless clock = r'.timeless clock)
    (hnow : clock now = clock now') (honset : (r.beginAttempt now).1 = (r'.beginAttempt now').1) :
    (r.beginAttempt now).2.timeless clock = (r'.beginAttempt now').2.timeless clock := by
  have hrested : (r.rested.beginAttempt now).2.timeless clock =
      (r'.rested.beginAttempt now').2.timeless clock := by
    have heq : r.rested.timeless clock = r'.rested.timeless clock := congrArg rested h
    have hbegin := @beginAttempt_rested_timeless r clock now
    rw [heq, hnow, beginAttempt_rested_timeless] at hbegin
    exact (congrArg Prod.snd hbegin).symm
  rw [beginAttempt_snd_eq, @beginAttempt_snd_eq r', honset]
  split
  · exact hrested
  · exact hrested
  · exact h

theorem finishAttempt_alike (h : r.timeless clock = r'.timeless clock) :
    r.finishAttempt.2.timeless clock = r'.finishAttempt.2.timeless clock := by
  have hfinished := congrArg finishAttempt h
  rw [finishAttempt_timeless, finishAttempt_timeless] at hfinished
  exact congrArg Prod.snd hfinished

theorem attemptReconnection_alike (h : r.timeless clock = r'.timeless clock)
    (hnow : clock now = clock now') (honset : (r.beginAttempt now).1 = (r'.beginAttempt now').1) :
    (r.attemptReconnection now).2.timeless clock =
      (r'.attemptReconnection now').2.timeless clock := by
  have hbegun := beginAttempt_alike h hnow honset
  simp only [attemptReconnection]
  generalize r.beginAttempt now = x at honset hbegun ⊢
  generalize r'.beginAttempt now' = x' at honset hbegun ⊢
  obtain ⟨onset, begun⟩ := x
  obtain ⟨onset', begun'⟩ := x'
  obtain rfl : onset = onset' := honset
  cases onset with
  | refused outcome => exact hbegun
  | waiting delay => exact finishAttempt_alike hbegun

/-- How the attempt begins that a failed call leads to, if it leads to one. -/
def failureOnset? (now : Nat) (e : CallError) (r : Relay) : Option Onset :=
  if (r.recordFailure e).1 then some ((r.recordFailure e).2.beginAttempt now).1 else none

/-- How the attempt begins that a poll leads to, if it leads to one. -/
def askOnset? (now : Nat) (r : Relay) : Option Onset :=
  match r.ask? with
  | some (.error e, r) => r.failureOnset? now e
  | _ => none

end Relay

/-- The delay that an attempt goes into. -/
def Onset.delay? : Onset → Option Duration
  | .refused _ => none
  | .waiting delay => some delay

namespace Relay

theorem recordFailure_alike (h : r.timeless clock = r'.timeless clock) (e : CallError) :
    (r.recordFailure e).1 = (r'.recordFailure e).1 ∧
      (r.recordFailure e).2.timeless clock = (r'.recordFailure e).2.timeless clock := by
  have hrecorded := congrArg (recordFailure e) h
  rw [recordFailure_timeless, recordFailure_timeless] at hrecorded
  exact Prod.mk.inj hrecorded

/-- A failed call has alike relays do the same, given that an attempt it leads to begins alike. -/
theorem failure_alike (h : r.timeless clock = r'.timeless clock) (e : CallError)
    (honset : r.failureOnset? now e = r'.failureOnset? now' e) {after after' : Relay → Relay}
    (hafter : ∀ u u' : Relay, u.timeless clock = u'.timeless clock →
      (u.beginAttempt now).1 = (u'.beginAttempt now').1 →
      (after u).timeless clock = (after' u').timeless clock) :
    (if (r.recordFailure e).1 then after (r.recordFailure e).2
      else (r.recordFailure e).2).timeless clock =
    (if (r'.recordFailure e).1 then after' (r'.recordFailure e).2
      else (r'.recordFailure e).2).timeless clock := by
  obtain ⟨hforces, hrecorded⟩ := recordFailure_alike h e
  rw [failureOnset?, failureOnset?, hforces] at honset
  rw [hforces]
  split
  · next hforced =>
    rw [if_pos hforced, if_pos hforced] at honset
    exact hafter _ _ hrecorded (Option.some.inj honset)
  · exact hrecorded

theorem handleFailure_alike (h : r.timeless clock = r'.timeless clock)
    (hnow : clock now = clock now') (e : CallError)
    (honset : r.failureOnset? now e = r'.failureOnset? now' e) :
    (r.handleFailure now e).timeless clock = (r'.handleFailure now' e).timeless clock := by
  rw [handleFailure_eq_ite, handleFailure_eq_ite]
  exact failure_alike h e honset fun u u' hu hbegin => attemptReconnection_alike hu hnow hbegin

theorem beginFailure_fst (e : CallError) :
    (r.beginFailure now e).1 = (r.failureOnset? now e).bind Onset.delay? := by
  rw [beginFailure, failureOnset?]
  rcases r.recordFailure e with ⟨_ | _, recorded⟩
  · rfl
  · rcases h : recorded.beginAttempt now with ⟨outcome | delay, begun⟩ <;> simp [h, Onset.delay?]

theorem beginFailure_alike (h : r.timeless clock = r'.timeless clock)
    (hnow : clock now = clock now') (e : CallError)
    (honset : r.failureOnset? now e = r'.failureOnset? now' e) :
    (r.beginFailure now e).1 = (r'.beginFailure now' e).1 ∧
      (r.beginFailure now e).2.timeless clock = (r'.beginFailure now' e).2.timeless clock := by
  constructor
  · rw [beginFailure_fst, beginFailure_fst, honset]
  · rw [beginFailure_snd_eq_ite, beginFailure_snd_eq_ite]
    exact failure_alike h e honset fun u u' hu hbegin => beginAttempt_alike hu hnow hbegin

/-- Alike relays get the same answer to a poll, but for the time in a report. -/
theorem ask?_alike (h : r.timeless clock = r'.timeless clock) :
    (r.ask? = none ∧ r'.ask? = none) ∨
    (∃ e u u', r.ask? = some (.error e, u) ∧ r'.ask? = some (.error e, u') ∧
      u.timeless clock = u'.timeless clock) ∨
    (∃ report report' u u', r.ask? = some (.ok report, u) ∧ r'.ask? = some (.ok report', u') ∧
      report.timeless = report'.timeless ∧ u.timeless clock = u'.timeless clock) := by
  have hask := congrArg ask? h
  rw [ask?_timeless, ask?_timeless] at hask
  generalize r.ask? = x at hask ⊢
  generalize r'.ask? = x' at hask ⊢
  rcases x with _ | ⟨e | report, u⟩ <;> rcases x' with _ | ⟨e' | report', u'⟩
  all_goals
    simp only [Option.map_none, Option.map_some, Except.map, Option.some.injEq, reduceCtorEq,
      Prod.mk.injEq, Except.error.injEq, Except.ok.injEq, false_and] at hask
  · exact .inl ⟨rfl, rfl⟩
  · obtain ⟨rfl, hu⟩ := hask
    exact .inr (.inl ⟨e, u, u', rfl, rfl, hu⟩)
  · exact .inr (.inr ⟨report, report', u, u', rfl, rfl, hask⟩)

end Relay

/-! Pollers. -/

def Stream.timeless (q : Stream) : Stream := { q with items := q.items.map Status.timeless }

theorem Stream.send_timeless (q : Stream) (status : Status) :
    q.timeless.send status.timeless = ((q.send status).1, timeless (q.send status).2) := by
  have hopen : q.timeless.receiverOpen = q.receiverOpen := rfl
  have hfull : q.timeless.isFull = q.isFull := by simp [timeless, Queue.isFull]
  simp only [Queue.send, hopen, hfull]
  split
  · rfl
  · split
    · rfl
    · simp [timeless]

namespace Poller

def timeless (clock : Nat → Nat) (p : Poller) : Poller where
  relay := p.relay.timeless clock
  outbox := p.outbox.timeless
  lastSent := p.lastSent.map .timeless

variable {p p' : Poller}

theorem emit_timeless (p : Poller) (status : Status) :
    (p.timeless clock).emit status.timeless =
      ((p.emit status).1, (p.emit status).2.timeless clock) := by
  have hsend : (p.timeless clock).outbox.send status.timeless =
      ((p.outbox.send status).1, Stream.timeless (p.outbox.send status).2) :=
    p.outbox.send_timeless status
  simp only [emit, hsend]
  rcases p.outbox.send status with ⟨_ | _ | _, q⟩ <;> rfl

theorem sendInitial_timeless (stamp : Timestamp) :
    (p.timeless clock).sendInitial .epoch = (p.sendInitial stamp).timeless clock := by
  have hconditions : (p.timeless clock).relay.settings.conditions = p.relay.settings.conditions :=
    rfl
  have hname : (p.timeless clock).relay.name = p.relay.name := rfl
  simp only [sendInitial, hconditions, hname]
  split
  · rfl
  · rw [Status.initial_timeless _ _ stamp]
    exact congrArg Prod.snd (emit_timeless ⟨p.relay.remark _ _ _, p.outbox, p.lastSent⟩ _)

theorem accept_timeless (stamp : Timestamp) (report : Plugin.Report) :
    (p.timeless clock).accept .epoch report.timeless =
      ((p.accept stamp report).1, (p.accept stamp report).2.timeless clock) := by
  have hlast : (p.timeless clock).lastSent = p.lastSent.map .timeless := rfl
  simp only [accept, hlast, Status.ofReport_timeless stamp, Status.shouldEmit_timeless]
  split
  · exact emit_timeless ⟨p.relay.recordSuccess, p.outbox, p.lastSent⟩ _
  · rfl

theorem alike_of_relay {u u' : Relay} (h : p.timeless clock = p'.timeless clock)
    (hu : u.timeless clock = u'.timeless clock) :
    timeless clock { p with relay := u } = timeless clock { p' with relay := u' } := by
  simp only [timeless, mk.injEq] at h ⊢
  exact ⟨hu, h.2⟩

section

variable {stamp stamp' : Timestamp} (h : p.timeless clock = p'.timeless clock)
  (hnow : clock now = clock now')
  (honset : p.relay.askOnset? now = p'.relay.askOnset? now')
include h hnow honset

/-- Alike pollers do the same when they poll, given that an attempt it leads to begins alike. -/
theorem beginPoll_alike :
    (p.beginPoll now stamp).1 = (p'.beginPoll now' stamp').1 ∧
      (p.beginPoll now stamp).2.1 = (p'.beginPoll now' stamp').2.1 ∧
      (p.beginPoll now stamp).2.2.timeless clock =
        (p'.beginPoll now' stamp').2.2.timeless clock := by
  have hrelay : p.relay.timeless clock = p'.relay.timeless clock := congrArg Poller.relay h
  rw [beginPoll_eq, beginPoll_eq]
  rw [Relay.askOnset?, Relay.askOnset?] at honset
  obtain ⟨hask, hask'⟩ | ⟨e, u, u', hask, hask', hu⟩ |
    ⟨report, report', u, u', hask, hask', hreport, hu⟩ := Relay.ask?_alike hrelay
  · rw [hask, hask']
    exact ⟨rfl, rfl, alike_of_relay h (congrArg (Relay.remark _ _ _) hrelay)⟩
  · rw [hask, hask'] at honset
    rw [hask, hask']
    obtain ⟨hdelay, hbegun⟩ := Relay.beginFailure_alike hu hnow e honset
    exact ⟨rfl, hdelay, alike_of_relay h hbegun⟩
  · rw [hask, hask']
    have haccept := congrArg (accept .epoch report.timeless) (alike_of_relay h hu)
    rw [accept_timeless stamp, hreport, accept_timeless stamp'] at haccept
    obtain ⟨houtcome, hp⟩ := Prod.mk.inj haccept
    exact ⟨houtcome, rfl, hp⟩

theorem poll_alike :
    (p.poll now stamp).1 = (p'.poll now' stamp').1 ∧
      (p.poll now stamp).2.timeless clock = (p'.poll now' stamp').2.timeless clock := by
  have hbegun := @beginPoll_alike clock now now' p p' stamp stamp' h hnow honset
  simp only [poll]
  generalize p.beginPoll now stamp = x at hbegun ⊢
  generalize p'.beginPoll now' stamp' = x' at hbegun ⊢
  obtain ⟨outcome, delay, begun⟩ := x
  obtain ⟨outcome', delay', begun'⟩ := x'
  obtain ⟨rfl, rfl, hp⟩ : outcome = outcome' ∧ delay = delay' ∧
    begun.timeless clock = begun'.timeless clock := hbegun
  cases delay with
  | none => exact ⟨rfl, hp⟩
  | some delay =>
    have hrelay : begun.relay.timeless clock = begun'.relay.timeless clock := congrArg relay hp
    exact ⟨rfl, alike_of_relay hp (Relay.finishAttempt_alike hrelay)⟩

end

end Poller
end HealthRelay
