import HealthRelay.Proofs.Aside
import HealthRelay.Proofs.LastSent

/-!
Where reports go: each one that is offered to the queue is taken or dropped, each one taken is
received or waits, and the host learns that there will be no more when none waits.
-/
namespace HealthRelay

variable {s t : Scene} {r : Relay} {p : Poller} {q : Stream} {now : Nat} {stamp : Timestamp}
  {milestones : List Milestone}

namespace Milestone

/-- The report, if the host got one. -/
def received? : Milestone → Option Status
  | .received status => some status
  | _ => none

end Milestone

theorem Aloof.received (h : Aloof milestones) : milestones.filterMap Milestone.received? = [] := by
  rw [List.filterMap_eq_nil_iff]
  intro m hm
  cases m <;> first | rfl | cases h _ hm

theorem aloof_nil : Aloof [] := by simp [Aloof]

theorem aloof_append {more : List Milestone} (h : Aloof milestones) (h' : Aloof more) :
    Aloof (milestones ++ more) := by
  simpa [Aloof, or_imp, forall_and] using ⟨h, h'⟩

namespace Relay

theorem aloof_attemptMilestones (r : Relay) (now : Nat) : Aloof (r.attemptMilestones now) := by
  rw [attemptMilestones]
  split
  · exact r.aloof_onsetMilestones now
  · exact aloof_append (r.aloof_onsetMilestones now) (aloof_wakeMilestones _)

theorem aloof_failureMilestones {attempt : Relay → List Milestone}
    (h : ∀ r, Aloof (attempt r)) (r : Relay) (e : CallError) :
    Aloof (r.failureMilestones attempt e) := by
  have hfailed : Aloof [.failed e] := by simp [Aloof, Milestone.concernsQueue]
  rw [failureMilestones]
  split
  · exact hfailed
  · exact aloof_append hfailed (h _)

theorem aloof_askMilestones {attempt : Relay → List Milestone} (h : ∀ r, Aloof (attempt r))
    (r : Relay) : Aloof (r.askMilestones attempt) := by
  rw [askMilestones]
  split
  · exact aloof_nil
  · simp [Aloof, Milestone.concernsQueue]
  · exact aloof_failureMilestones h _ _

theorem ask?_dropped {answer : Except CallError Plugin.Report} {r' : Relay}
    (h : r.ask? = some (answer, r')) : r'.dropped = r.dropped := by
  obtain ⟨session, link, -, -, rfl⟩ := ask?_eq_some h
  rfl

end Relay

/-- A way for the host to get a report. -/
inductive Receive where
  | tryRecv
  | recvTimeout (limit : Duration)
  | recv

namespace Receive

variable {status : Status} {rest : List Status} {w : Receive}

def action : Receive → Action
  | .tryRecv => .tryRecv
  | .recvTimeout limit => .recvTimeout limit
  | .recv => .recv

/-- The answer, unless there is none as long as nothing is sent. -/
def answer? (q : Stream) : Receive → Option (Except RelayError (Option Status))
  | .tryRecv => some (Stream.tryRecv q).1
  | .recvTimeout limit => some ((Stream.recvTimeout limit q).1.map some)
  | .recv => (Stream.recv? q).map fun got => got.1.map some

theorem answer?_of_items (w : Receive) (h : q.items = status :: rest) :
    w.answer? q = some (.ok (some status)) := by
  cases w <;>
    simp [answer?, Stream.tryRecv, Stream.recvTimeout, Stream.recv?, Queue.take, h, Except.map]

theorem answer?_eq_streamClosed_iff :
    w.answer? q = some (.error .streamClosed) ↔ q.senderOpen = false ∧ q.items = [] := by
  cases hitems : q.items with
  | nil =>
    cases w <;> cases hopen : q.senderOpen <;>
      simp [answer?, Stream.tryRecv, Stream.recvTimeout, Stream.recv?, Queue.take, hitems, hopen,
        Except.map]
  | cons status rest => simp [answer?_of_items w hitems]

end Receive

/-- Where the reports are that were offered so far. -/
structure Books where
  queue : Stream
  /-- The reports that the queue has taken. -/
  sent : List Status
  /-- The reports that the host has got. -/
  received : List Status
  /-- How many reports have been dropped. -/
  dropped : Nat

/-- What may happen to a report that is offered, or else to the queue. -/
inductive Books.Flow (b : Books) : Option Status → Books → Prop where
  | aside : Flow b none b
  | accepted (status : Status) (alive : b.queue.senderOpen = true)
    (room : (b.queue.send status).1 = .accepted) :
    Flow b (some status)
      { b with queue.items := b.queue.items ++ [status], sent := b.sent ++ [status] }
  | refused (status : Status) (alive : b.queue.senderOpen = true)
    (refusal : (b.queue.send status).1 ≠ .accepted) :
    Flow b (some status) { b with dropped := b.dropped + 1 }
  | taken (status : Status) (rest : List Status) (first : b.queue.items = status :: rest) :
    Flow b none { b with queue.items := rest, received := b.received ++ [status] }
  | left : Flow b none { b with queue := b.queue.closeReceiver }
  | retired : Flow b none { b with queue := b.queue.closeSender }

theorem Queue.isFull_eq_false_of_accepted {α : Type} {q : Queue α} {a : α}
    (h : (q.send a).1 = .accepted) : q.isFull = false := by
  rw [send] at h
  cases hfull : q.isFull with
  | false => rfl
  | true =>
    rw [hfull] at h
    split at h <;> cases h

theorem Queue.send_eq_gone_iff {α : Type} {q : Queue α} {a : α} :
    (q.send a).1 = .gone ↔ q.receiverOpen = false := by
  rw [send]
  cases q.receiverOpen with
  | false => simp
  | true => cases q.isFull <;> simp

/-- As long as there is never too much in it, a queue is full when it holds just what it can. -/
theorem Queue.isFull_iff {α : Type} {q : Queue α}
    (h : ∀ n, q.capacity = some n → q.items.length ≤ n) :
    q.isFull = true ↔ q.capacity = some q.items.length := by
  cases hcapacity : q.capacity with
  | none => simp [isFull, hcapacity]
  | some n =>
    have hle := h n hcapacity
    rw [isFull, hcapacity, Option.any_some, decide_eq_true_iff, Option.some_inj]
    omega

theorem Queue.send_eq_full_iff {α : Type} {q : Queue α} {a : α} :
    (q.send a).1 = .full ↔ q.receiverOpen = true ∧ q.isFull = true := by
  rw [send]
  cases q.receiverOpen with
  | false => simp
  | true => cases q.isFull <;> simp

theorem Poller.emit_outbox (p : Poller) (status : Status) :
    ((p.outbox.send status).1 = .accepted ∧
      (p.emit status).2.outbox = { p.outbox with items := p.outbox.items ++ [status] } ∧
      (p.emit status).2.relay.dropped = p.relay.dropped) ∨
    ((p.outbox.send status).1 ≠ .accepted ∧ (p.emit status).2.outbox = p.outbox ∧
      (p.emit status).2.relay.dropped = p.relay.dropped + 1) := by
  obtain heq | heq | heq := p.outbox.send_cases status
  · exact .inr (by simp [emit, heq, discard, Relay.countDropped, Relay.remark])
  · exact .inr (by simp [emit, heq, discard, Relay.countDropped, Relay.remark])
  · exact .inl (by simp [emit, heq])

namespace Scene

/-- The reports that the host has got. -/
def received (s : Scene) : List Status := s.history.filterMap Milestone.received?

def books (s : Scene) : Books := ⟨s.outbox, s.sent, s.received, s.relay.dropped⟩

/-- The report that an action offers to the queue. -/
def offer? (s : Scene) : Action → Option Status
  | .sendInitial stamp =>
    if s.outbox.senderOpen ∧ s.relay.settings.conditions ≠ [] then
      some (.initial s.relay.name s.relay.settings.conditions stamp)
    else none
  | .poll _ stamp | .beginPoll _ stamp =>
    if s.outbox.senderOpen then
      (s.report? stamp).filter fun status => Status.shouldEmit s.poller.lastSent status
    else none
  | _ => none

theorem books_turn (hm : Aloof milestones) :
    (s.turn milestones p).books =
      ⟨p.outbox, s.sent ++ s.outbox.taken p.outbox, s.received, p.relay.dropped⟩ := by
  have hreceived (l : List Status) :
      (l.map Milestone.accepted).filterMap Milestone.received? = [] := by
    simp [List.filterMap_eq_nil_iff, Milestone.received?]
  have hhistory : (s.turn milestones p).received = s.received := by
    simp [received, turn, hm.received, hreceived]
  rw [books, sent_turn, hm.accepted, List.append_nil, hhistory]
  rfl

theorem books_hand :
    (s.hand milestones q).books =
      ⟨q, s.sent ++ milestones.filterMap Milestone.accepted?,
        s.received ++ milestones.filterMap Milestone.received?, s.relay.dropped⟩ := by
  simp only [books, hand, sent, received, List.filterMap_append]
  rfl

/-- What does not touch the queue leaves the books. -/
theorem flow_aside (houtbox : t.outbox = s.outbox) (hhistory : t.history = s.history ++ milestones)
    (hm : Aloof milestones) (hd : t.relay.dropped = s.relay.dropped) :
    s.books.Flow none t.books := by
  have hbooks : t.books = s.books := by
    simp [books, sent, received, houtbox, hhistory, hm.accepted, hm.received, hd]
  rw [hbooks]
  exact .aside

/-- An offer is taken or dropped. -/
theorem flow_emit (hm : Aloof milestones) (halive : s.outbox.senderOpen = true)
    (houtbox : p.outbox = s.outbox) (hdropped : p.relay.dropped = s.relay.dropped)
    (status : Status) :
    s.books.Flow (some status) (s.turn milestones (p.emit status).2).books := by
  rw [books_turn hm]
  obtain ⟨hroom, hafter, hcount⟩ | ⟨hrefusal, hafter, hcount⟩ := p.emit_outbox status
  · rw [houtbox] at hroom hafter
    rw [hafter, hcount, hdropped]
    simpa [books, Queue.taken] using Books.Flow.accepted (b := s.books) status halive hroom
  · rw [houtbox] at hrefusal hafter
    rw [hafter, hcount, hdropped]
    simpa [books, Queue.taken] using Books.Flow.refused (b := s.books) status halive hrefusal

/-- A poll offers the report that it gets, if there is news in it. -/
theorem flow_accept {report : Plugin.Report} (halive : s.outbox.senderOpen = true)
    (hask : s.relay.ask? = some (.ok report, r)) :
    s.books.Flow
      ((s.report? stamp).filter fun status => Status.shouldEmit s.poller.lastSent status)
      (s.turn [.succeeded] ({ s.poller with relay := r }.accept stamp report).2).books := by
  have hm : Aloof [.succeeded] := by simp [Aloof, Milestone.concernsQueue]
  have hdropped : r.dropped = s.relay.dropped := Relay.ask?_dropped hask
  rw [report?, hask, Poller.accept]
  cases hnews : Status.shouldEmit s.poller.lastSent (.ofReport stamp report) with
  | false =>
    simp only [Option.filter, hnews, if_false, Bool.false_eq_true, turn_eq_note]
    exact flow_aside rfl rfl hm hdropped
  | true =>
    simp only [Option.filter, hnews, if_true]
    exact flow_emit (p := { s.poller with relay := r.recordSuccess }) hm halive rfl hdropped _

theorem flow_poll (halive : s.outbox.senderOpen = true) :
    s.books.Flow
      ((s.report? stamp).filter fun status => Status.shouldEmit s.poller.lastSent status)
      (s.turn (s.relay.askMilestones (Relay.attemptMilestones now))
        (s.poller.poll now stamp).2).books := by
  have hm : Aloof (s.relay.askMilestones (Relay.attemptMilestones now)) :=
    Relay.aloof_askMilestones (fun r => r.aloof_attemptMilestones now) s.relay
  rw [Poller.poll_eq, Poller.beginPoll_eq]
  rcases hask : s.relay.ask? with _ | ⟨e | report, r⟩
  all_goals have hask' : s.poller.relay.ask? = _ := hask
  · simp only [report?, hask, hask', turn_eq_note]
    exact flow_aside rfl rfl hm rfl
  · have hdropped : (r.handleFailure now e).dropped = s.relay.dropped := by
      rw [(r.aside_handleFailure now e).dropped, Relay.ask?_dropped hask]
    simp only [report?, hask, hask', turn_eq_note]
    exact flow_aside rfl rfl hm hdropped
  · simp only [hask', Relay.askMilestones, hask]
    exact flow_accept halive hask

theorem flow_beginPoll (halive : s.outbox.senderOpen = true) :
    s.books.Flow
      ((s.report? stamp).filter fun status => Status.shouldEmit s.poller.lastSent status)
      (s.turn (s.relay.askMilestones (Relay.onsetMilestones now))
        (s.poller.beginPoll now stamp).2.2).books := by
  have hm : Aloof (s.relay.askMilestones (Relay.onsetMilestones now)) :=
    Relay.aloof_askMilestones (fun r => r.aloof_onsetMilestones now) s.relay
  rw [Poller.beginPoll_eq]
  rcases hask : s.relay.ask? with _ | ⟨e | report, r⟩
  all_goals have hask' : s.poller.relay.ask? = _ := hask
  · simp only [report?, hask, hask', turn_eq_note]
    exact flow_aside rfl rfl hm rfl
  · have hdropped : (r.beginFailure now e).2.dropped = s.relay.dropped := by
      rw [(r.aside_beginFailure now e).dropped, Relay.ask?_dropped hask]
    simp only [report?, hask, hask', turn_eq_note]
    exact flow_aside rfl rfl hm hdropped
  · simp only [hask', Relay.askMilestones, hask]
    exact flow_accept halive hask

theorem flow_sendInitial (halive : s.outbox.senderOpen = true) :
    s.books.Flow (s.offer? (.sendInitial stamp))
      (s.turn [] (s.poller.sendInitial stamp)).books := by
  by_cases hnone : s.relay.settings.conditions = []
  · have hnone' : s.poller.relay.settings.conditions = [] := hnone
    have hsame : s.poller.sendInitial stamp = { s.poller with relay := s.relay } := by
      simp [Poller.sendInitial, hnone', relay]
    have hoffer : s.offer? (.sendInitial stamp) = none := by simp [offer?, hnone]
    rw [hsame, turn_eq_note, hoffer]
    exact flow_aside rfl rfl aloof_nil rfl
  · let status := Status.initial s.relay.name s.relay.settings.conditions stamp
    let remarked := s.relay.remark .info "Sending initial status"
      [("conditions", toString s.relay.settings.conditions.length)]
    have hsends : s.poller.sendInitial stamp =
        ({ s.poller with relay := remarked }.emit status).2 := by
      have hsome : ¬s.poller.relay.settings.conditions.isEmpty = true := by
        rw [List.isEmpty_iff]
        exact hnone
      rw [Poller.sendInitial, if_neg hsome]
      rfl
    have hoffer : s.offer? (.sendInitial stamp) = some status := by
      simp [offer?, halive, hnone, status]
    rw [hsends, hoffer]
    exact flow_emit (p := { s.poller with relay := remarked }) aloof_nil halive rfl rfl status

/-- The host gets the report that has waited longest. -/
theorem perform_receive_of_items (w : Receive) {status : Status} {rest : List Status}
    (h : s.outbox.items = status :: rest) :
    s.perform w.action = s.hand [.received status] { s.outbox with items := rest } := by
  cases w <;>
    simp [Receive.action, perform, Stream.tryRecv, Stream.recvTimeout, Stream.recv?, Queue.take, h]

theorem perform_receive_of_empty (w : Receive) (h : s.outbox.items = []) :
    s.perform w.action = s := by
  have hsame : s.hand [] s.outbox = s := by simp [hand, outbox]
  cases w <;> cases hopen : s.outbox.senderOpen <;>
    simp [Receive.action, perform, Stream.tryRecv, Stream.recvTimeout, Stream.recv?, Queue.take, h,
      hopen, hsame]

theorem flow_receive (w : Receive) : s.books.Flow none (s.perform w.action).books := by
  cases hitems : s.outbox.items with
  | nil =>
    rw [perform_receive_of_empty w hitems]
    exact .aside
  | cons status rest =>
    have hsent : [Milestone.received status].filterMap Milestone.accepted? = [] := rfl
    rw [perform_receive_of_items w hitems, books_hand, hsent, List.append_nil]
    exact .taken status rest hitems

/-- Every action lets the reports flow, and those that it offers only. -/
theorem flow_perform (s : Scene) (a : Action) :
    s.books.Flow (s.offer? a) (s.perform a).books := by
  cases a with
  | connect =>
    exact flow_aside rfl rfl s.relay.aloof_connectMilestones s.relay.aside_connect.dropped
  | attempt now =>
    exact flow_aside rfl rfl (s.relay.aloof_attemptMilestones now)
      (s.relay.aside_attemptReconnection now).dropped
  | fail now e =>
    exact flow_aside rfl rfl
      (Relay.aloof_failureMilestones (fun r => r.aloof_attemptMilestones now) s.relay e)
      (s.relay.aside_handleFailure now e).dropped
  | succeed => exact flow_aside rfl rfl (by simp [Aloof, Milestone.concernsQueue]) rfl
  | closeSession => exact flow_aside rfl rfl aloof_nil s.relay.aside_closeSession.dropped
  | sendInitial stamp =>
    -- A poller that has come to its end offers nothing.
    cases halive : s.outbox.senderOpen with
    | false =>
      simp only [perform, work, offer?, halive, Bool.false_eq_true, false_and, if_false]
      exact .aside
    | true =>
      simp only [perform, work, halive, if_true]
      exact flow_sendInitial halive
  | poll now stamp =>
    cases halive : s.outbox.senderOpen with
    | false =>
      simp only [perform, work, offer?, halive, Bool.false_eq_true, if_false]
      exact .aside
    | true =>
      simp only [perform, work, offer?, halive, if_true]
      exact flow_poll halive
  | beginPoll now stamp =>
    cases halive : s.outbox.senderOpen with
    | false =>
      simp only [perform, work, offer?, halive, Bool.false_eq_true, if_false]
      exact .aside
    | true =>
      simp only [perform, work, offer?, halive, if_true]
      exact flow_beginPoll halive
  | beginAttempt now =>
    exact flow_aside rfl rfl (s.relay.aloof_onsetMilestones now)
      (s.relay.aside_beginAttempt now).dropped
  | beginFail now e =>
    exact flow_aside rfl rfl
      (Relay.aloof_failureMilestones (fun r => r.aloof_onsetMilestones now) s.relay e)
      (s.relay.aside_beginFailure now e).dropped
  | wake =>
    simp only [perform]
    split
    · exact flow_aside rfl rfl s.relay.aloof_wakeMilestones s.relay.aside_wakeAttempt.dropped
    · exact .aside
  | finish =>
    simp only [perform]
    split
    · exact flow_aside rfl rfl aloof_nil rfl
    · exact .aside
  | tryRecv => exact flow_receive .tryRecv
  | recvTimeout limit => exact flow_receive (.recvTimeout limit)
  | recv => exact flow_receive .recv
  | leave =>
    simp only [perform, books_hand, List.filterMap_nil, List.append_nil]
    exact .left
  | retire =>
    simp only [perform, books_hand, List.filterMap_nil, List.append_nil]
    exact .retired
  | sever | setReachable | setFiles | signal => exact flow_aside rfl rfl aloof_nil rfl

end Scene

namespace Books

variable {b b' : Books} {offer : Option Status}

/-- Nothing is lost on the way from the queue to the host, and there is never too much in the
queue. -/
structure Balanced (capacity : Option Nat) (b : Books) : Prop where
  capacity_eq : b.queue.capacity = capacity
  conserved : b.queue.receiverOpen = true → b.received ++ b.queue.items = b.sent
  bounded : ∀ n, capacity = some n → b.queue.items.length ≤ n

theorem Flow.balanced {capacity : Option Nat} (h : b.Flow offer b') (hb : Balanced capacity b) :
    Balanced capacity b' := by
  cases h with
  | aside => exact hb
  | accepted status alive room =>
    refine ⟨hb.capacity_eq, ?_, ?_⟩
    · intro hopen
      rw [← hb.conserved hopen, List.append_assoc]
    · intro n hn
      have hroom : b.queue.isFull = false := Queue.isFull_eq_false_of_accepted room
      rw [Queue.isFull, hb.capacity_eq, hn, Option.any_some, decide_eq_false_iff_not] at hroom
      rw [List.length_append, List.length_singleton]
      omega
  | refused status alive refusal => exact ⟨hb.capacity_eq, hb.conserved, hb.bounded⟩
  | taken status rest first =>
    refine ⟨hb.capacity_eq, ?_, ?_⟩
    · intro hopen
      rw [← hb.conserved hopen, first, List.append_assoc]
      rfl
    · intro n hn
      have hle := hb.bounded n hn
      rw [first, List.length_cons] at hle
      exact Nat.le_of_succ_le hle
  | left => exact ⟨hb.capacity_eq, by simp [Queue.closeReceiver], by simp [Queue.closeReceiver]⟩
  | retired => exact ⟨hb.capacity_eq, hb.conserved, hb.bounded⟩

theorem Balanced.send_eq_full_iff {capacity : Option Nat} (hb : Balanced capacity b)
    (status : Status) :
    (b.queue.send status).1 = .full ↔
      b.queue.receiverOpen = true ∧ capacity = some b.queue.items.length := by
  have hbounded : ∀ n, b.queue.capacity = some n → b.queue.items.length ≤ n :=
    hb.capacity_eq ▸ hb.bounded
  rw [Queue.send_eq_full_iff, Queue.isFull_iff hbounded, hb.capacity_eq]

/-- After the sender has left, the queue is only emptied, and nothing more is sent. -/
theorem Flow.of_retired (h : b.Flow offer b') (hretired : b.queue.senderOpen = false) :
    b'.queue.senderOpen = false ∧ b'.sent = b.sent ∧ b'.dropped = b.dropped ∧
      (b.queue.items = [] → b'.queue.items = []) := by
  cases h with
  | aside => exact ⟨hretired, rfl, rfl, id⟩
  | accepted status alive room =>
    rw [hretired] at alive
    cases alive
  | refused status alive refusal =>
    rw [hretired] at alive
    cases alive
  | taken status rest first =>
    refine ⟨hretired, rfl, rfl, ?_⟩
    intro hempty
    rw [first] at hempty
    cases hempty
  | left => exact ⟨hretired, rfl, rfl, fun _ => rfl⟩
  | retired => exact ⟨rfl, rfl, rfl, id⟩

end Books

namespace Scene

/-- The reports that are offered to the queue, with what becomes of them. -/
def offers (s : Scene) : List Action → List (Status × Queue.Delivery)
  | [] => []
  | a :: rest =>
    (s.offer? a).toList.map (fun status => (status, (s.outbox.send status).1)) ++
      (s.perform a).offers rest

theorem offers_append (s : Scene) (first rest : List Action) :
    s.offers (first ++ rest) = s.offers first ++ (s.run first).offers rest := by
  induction first generalizing s with
  | nil => rfl
  | cons a first ih =>
    have hrun : s.run (a :: first) = (s.perform a).run first := rfl
    simp only [List.cons_append, offers, ih, List.append_assoc, hrun]

/-- What an action offers has its place among all that is offered. -/
theorem offers_of_offer {before after : List Action} {a : Action} {status : Status}
    (h : (s.run before).offer? a = some status) :
    s.offers (before ++ a :: after) =
      s.offers before ++ (status, ((s.run before).outbox.send status).1) ::
        (s.run (before ++ [a])).offers after := by
  have hrun : s.run (before ++ [a]) = (s.run before).perform a := by
    rw [run, List.foldl_append]
    rfl
  rw [offers_append, hrun, offers, h]
  rfl

theorem balanced_run {capacity : Option Nat} (hs : s.books.Balanced capacity)
    (actions : List Action) : (s.run actions).books.Balanced capacity := by
  induction actions generalizing s with
  | nil => exact hs
  | cons a actions ih => exact ih ((s.flow_perform a).balanced hs)

/-- What was offered is what was sent and what was dropped. -/
theorem books_run (s : Scene) (actions : List Action) :
    (s.run actions).books.sent =
      s.books.sent ++ ((s.offers actions).filter fun o => o.2 = .accepted).map Prod.fst ∧
    (s.run actions).books.dropped =
      s.books.dropped + (s.offers actions).countP fun o => o.2 ≠ .accepted := by
  induction actions generalizing s with
  | nil => simp [offers, run]
  | cons a actions ih =>
    obtain ⟨hsent, hdropped⟩ := ih (s.perform a)
    have hrun : s.run (a :: actions) = (s.perform a).run actions := rfl
    have hflow := s.flow_perform a
    rw [hrun, hsent, hdropped, offers]
    -- The books after the action are whatever the flow of its offer makes of those before it.
    generalize (s.perform a).books = after, s.offer? a = offer at hflow
    cases hflow with
    | accepted status alive room =>
      have htaken : (s.outbox.send status).1 = .accepted := room
      simp [htaken]
    | refused status alive refusal =>
      have hdrop : (s.outbox.send status).1 ≠ .accepted := refusal
      simp only [Option.toList_some, List.map_cons, List.map_nil, List.singleton_append,
        List.filter_cons, List.countP_cons, hdrop, ne_eq, not_false_eq_true, decide_true,
        decide_false, if_true, if_false, Bool.false_eq_true]
      exact ⟨trivial, by omega⟩
    | aside | taken | left | retired => exact ⟨rfl, rfl⟩

theorem run_of_retired (hretired : s.outbox.senderOpen = false) (actions : List Action) :
    (s.run actions).outbox.senderOpen = false ∧ (s.run actions).sent = s.sent ∧
      (s.run actions).relay.dropped = s.relay.dropped ∧
      (s.outbox.items = [] → (s.run actions).outbox.items = []) := by
  induction actions generalizing s with
  | nil => exact ⟨hretired, rfl, rfl, id⟩
  | cons a actions ih =>
    obtain ⟨hclosed, hsent, hdropped, hempty⟩ := (s.flow_perform a).of_retired hretired
    obtain ⟨hclosed', hsent', hdropped', hempty'⟩ := ih hclosed
    exact ⟨hclosed', hsent'.trans hsent, hdropped'.trans hdropped, fun h => hempty' (hempty h)⟩

/-- The host gets what waits in the queue, in order. -/
theorem run_receives (s : Scene) (ws : List Receive) :
    (s.run (ws.map Receive.action)).received = s.received ++ s.outbox.items.take ws.length ∧
      (s.run (ws.map Receive.action)).outbox.items = s.outbox.items.drop ws.length := by
  induction ws generalizing s with
  | nil => simp [run]
  | cons w ws ih =>
    obtain ⟨hreceived, hitems⟩ := ih (s.perform w.action)
    have hrun : s.run ((w :: ws).map Receive.action) =
        (s.perform w.action).run (ws.map Receive.action) := rfl
    rw [hrun, hreceived, hitems]
    cases hfirst : s.outbox.items with
    | nil =>
      rw [perform_receive_of_empty w hfirst, hfirst]
      simp
    | cons status rest =>
      rw [perform_receive_of_items w hfirst]
      simp [received, hand, outbox, Milestone.received?]

theorem balanced_initial (b : Beginning) : b.scene.books.Balanced b.capacity where
  capacity_eq := rfl
  conserved _ := rfl
  bounded _ _ := Nat.zero_le _

end Scene

/-- Whatever is done in whatever order, each report that was offered to the queue was either taken
or dropped, and the drops are counted. It was dropped just if it found the host gone, or the host
there and as many reports waiting as there is room for. While the host has its end of the queue,
what it has got and what waits are together what the queue has taken, in order, and never more waits
than there is room for. The host gets the report that has waited longest, whichever way it asks, and
is told that there will be no more just when the poller has come to its end and none waits. That
stays so, and by then it has got all that the queue took. -/
theorem deliveries_accounted_for (b : Beginning) (actions : List Action) :
    let s := b.scene.run actions
    let q := s.outbox
    let offers := b.scene.offers actions
    (q.receiverOpen = true → s.received ++ q.items = s.sent) ∧
    (∀ n, b.capacity = some n → q.items.length ≤ n) ∧
    s.sent = (offers.filter fun o => o.2 = .accepted).map Prod.fst ∧
    s.relay.dropped = (offers.countP fun o => o.2 ≠ .accepted) ∧
    s.sent.length + s.relay.dropped = offers.length ∧
    (∀ before a after status, actions = before ++ a :: after →
      (b.scene.run before).offer? a = some status →
      let found := (b.scene.run before).outbox
      ∃ answer,
        offers = b.scene.offers before ++ (status, answer) ::
          (b.scene.run (before ++ [a])).offers after ∧
        (answer = .gone ↔ found.receiverOpen = false) ∧
        (answer = .full ↔ found.receiverOpen = true ∧ b.capacity = some found.items.length)) ∧
    (∀ w : Receive,
      (∀ status rest, q.items = status :: rest → w.answer? q = some (.ok (some status))) ∧
      (w.answer? q = some (.error .streamClosed) ↔ q.senderOpen = false ∧ q.items = [])) ∧
    (∀ ws : List Receive,
      let t := s.run (ws.map Receive.action)
      t.received = s.received ++ q.items.take ws.length ∧
        t.outbox.items = q.items.drop ws.length) ∧
    (q.senderOpen = false → ∀ later,
      let t := s.run later
      t.sent = s.sent ∧ t.relay.dropped = s.relay.dropped ∧
      (∀ w w' : Receive, w.answer? q = some (.error .streamClosed) →
        w'.answer? t.outbox = some (.error .streamClosed)) ∧
      (∀ w : Receive, w.answer? t.outbox = some (.error .streamClosed) →
        t.outbox.receiverOpen = true → t.received = s.sent)) := by
  intro s q offers
  have hs : s.books.Balanced b.capacity := Scene.balanced_run (Scene.balanced_initial b) actions
  obtain ⟨hsent, hdropped⟩ := b.scene.books_run actions
  have hsent' : s.sent = (offers.filter fun o => o.2 = .accepted).map Prod.fst := hsent
  have hdropped' : s.relay.dropped = offers.countP fun o => o.2 ≠ .accepted :=
    hdropped.trans (Nat.zero_add _)
  refine ⟨hs.conserved, hs.bounded, hsent', hdropped', ?_, ?_, ?_, s.run_receives, ?_⟩
  · rw [hsent', hdropped', List.length_map, ← List.countP_eq_length_filter]
    have hlength := offers.length_eq_countP_add_countP fun o => o.2 = .accepted
    simpa using hlength.symm
  · intro before a after status hactions hoffer found
    have hbefore : (b.scene.run before).books.Balanced b.capacity :=
      Scene.balanced_run (Scene.balanced_initial b) before
    refine ⟨_, ?_, Queue.send_eq_gone_iff, hbefore.send_eq_full_iff status⟩
    rw [← Scene.offers_of_offer hoffer, ← hactions]
  · intro w
    exact ⟨fun status rest h => w.answer?_of_items h, Receive.answer?_eq_streamClosed_iff⟩
  · intro hretired later t
    obtain ⟨hclosed, hsame, hcount, hempty⟩ := Scene.run_of_retired hretired later
    have ht : t.books.Balanced b.capacity := Scene.balanced_run hs later
    refine ⟨hsame, hcount, ?_, ?_⟩
    · intro w w' hnow
      have hitems : q.items = [] := (Receive.answer?_eq_streamClosed_iff.1 hnow).2
      exact Receive.answer?_eq_streamClosed_iff.2 ⟨hclosed, hempty hitems⟩
    · intro w hthen hopen
      have hitems : t.outbox.items = [] := (Receive.answer?_eq_streamClosed_iff.1 hthen).2
      have hall : t.received ++ t.outbox.items = t.sent := ht.conserved hopen
      rwa [hitems, List.append_nil, hsame] at hall

end HealthRelay
