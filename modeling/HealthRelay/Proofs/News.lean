import HealthRelay.Proofs.Delivery

/-!
Which reports are passed on while the queue refuses none: those that have events, or whose
conditions say something else than those of the report right before.

The poller measures against the report passed on last, which may be older than the one right before.
What the conditions of the two say is the same.
-/
namespace HealthRelay

variable {s : Scene} {a : Action} {actions : List Action} {stamp : Timestamp}
  {last before : Option Status} {status : Status}

namespace Status

/-- A report that does more than repeat the one right before it. -/
def isNews (before : Option Status) (next : Status) : Bool :=
  next.events ≠ [] || before.map facts ≠ some next.facts

/-- The reports with news in them, each measured against the one right before it. -/
def changes (before : Option Status) : List Status → List Status
  | [] => []
  | status :: rest =>
    if isNews before status then status :: changes (some status) rest
    else changes (some status) rest

/-- What is measured against counts only for what its conditions say. -/
theorem shouldEmit_eq_isNews (h : last.map facts = before.map facts) (next : Status) :
    shouldEmit last next = isNews before next := by
  rw [isNews, ← h, ← Bool.not_inj_iff, Bool.eq_iff_iff, Bool.not_eq_true', shouldEmit_eq_false_iff]
  cases last <;> simp

end Status

/-- The report before the first is passed on. -/
def Action.greets : Action → Bool
  | .sendInitial _ => true
  | _ => false

namespace Scene

/-- The report that an action brings from the plugin. A poll that is skipped or fails brings
none. -/
def gained? (s : Scene) : Action → Option Status
  | .poll _ stamp | .beginPoll _ stamp => if s.outbox.senderOpen then s.report? stamp else none
  | _ => none

/-- The reports that have come from the plugin, the first one first. -/
def reports (s : Scene) : List Action → List Status
  | [] => []
  | a :: rest => (s.gained? a).toList ++ (s.perform a).reports rest

/-- A report from the plugin is offered if there is news in it, and nothing else is. -/
theorem offer?_eq (h : a.greets = false) :
    s.offer? a = (s.gained? a).filter fun status => Status.shouldEmit s.poller.lastSent status := by
  cases a with
  | sendInitial stamp => cases h
  | poll now stamp | beginPoll now stamp =>
    simp only [offer?, gained?]
    split <;> rfl
  | _ => rfl

theorem sent_perform (hroom : ∀ o ∈ s.offers [a], o.2 = .accepted) :
    (s.perform a).sent = s.sent ++ (s.offer? a).toList := by
  have hsent : (s.perform a).sent = _ := (s.books_run [a]).1
  rw [hsent, List.filter_eq_self.2 fun o ho => decide_eq_true (hroom o ho)]
  cases h : s.offer? a <;> simp [offers, h, books]

/-- What brings no report passes none on, and leaves what change is measured against. -/
theorem idle_perform (hlast : s.poller.lastSent = s.sent.getLast?) (hgreets : a.greets = false)
    (h : s.gained? a = none) :
    (s.perform a).sent = s.sent ∧ (s.perform a).poller.lastSent = s.poller.lastSent := by
  have hoffer : s.offer? a = none := by rw [offer?_eq hgreets, h, Option.filter_none]
  have hsent : (s.perform a).sent = s.sent := by
    rw [sent_perform (by simp [offers, hoffer]), hoffer]
    exact List.append_nil _
  have hlast' : (s.perform a).poller.lastSent = (s.perform a).sent.getLast? :=
    lastSent_run hlast [a]
  exact ⟨hsent, by rw [hlast', hsent, hlast]⟩

/-- The induction is on the actions. It carries that what change is measured against says what the
report right before said, be it that very report or an older one. -/
theorem sent_run_eq_changes (hlast : s.poller.lastSent = s.sent.getLast?)
    (hbefore : s.poller.lastSent.map Status.facts = before.map Status.facts)
    (honce : ∀ a ∈ actions, a.greets = false) (hroom : ∀ o ∈ s.offers actions, o.2 = .accepted) :
    (s.run actions).sent = s.sent ++ Status.changes before (s.reports actions) := by
  induction actions generalizing s before with
  | nil => simp [run, reports, Status.changes]
  | cons a actions ih =>
    rw [List.forall_mem_cons] at honce
    have hsplit : s.offers (a :: actions) = s.offers [a] ++ (s.perform a).offers actions :=
      s.offers_append [a] actions
    rw [hsplit, List.forall_mem_append] at hroom
    have hoffer := @offer?_eq s a honce.1
    have hsent : (s.perform a).sent = s.sent ++ (s.offer? a).toList := sent_perform hroom.1
    have hlast' : (s.perform a).poller.lastSent = (s.perform a).sent.getLast? :=
      lastSent_run hlast [a]
    have hrun : s.run (a :: actions) = (s.perform a).run actions := rfl
    rw [hrun, reports]
    cases hgained : s.gained? a with
    | none =>
      obtain ⟨hsame, hreference⟩ := idle_perform hlast honce.1 hgained
      have hrest := @ih (s.perform a) before hlast' (by rw [hreference, hbefore]) honce.2 hroom.2
      rw [hrest, hsame]
      rfl
    | some status =>
      have hnews := Status.shouldEmit_eq_isNews hbefore status
      rw [hgained, Option.filter_some, hnews] at hoffer
      cases h : Status.isNews before status with
      | true =>
        rw [h, if_pos rfl] at hoffer
        have hreference : (s.perform a).poller.lastSent = some status := by
          rw [hlast', hsent, hoffer]
          simp
        have hrest := @ih (s.perform a) (some status) hlast' (by rw [hreference]) honce.2 hroom.2
        rw [hrest, hsent, hoffer]
        simp [Status.changes, h]
      | false =>
        rw [h, if_neg Bool.false_ne_true] at hoffer
        obtain ⟨held, hheld, -, hfacts⟩ := (Status.shouldEmit_eq_false_iff _ _).1 (hnews.trans h)
        have hsame : (s.perform a).sent = s.sent := by
          rw [hsent, hoffer]
          exact List.append_nil _
        have hreference : (s.perform a).poller.lastSent = some held := by
          rw [hlast', hsame, ← hlast, hheld]
        have hrest := @ih (s.perform a) (some status) hlast'
          (by rw [hreference, Option.map_some, hfacts, Option.map_some]) honce.2 hroom.2
        rw [hrest, hsame]
        simp [Status.changes, h]

end Scene

namespace Relay

variable {r : Relay} {capacity : Option Nat} {asleep ending : Nat}

/-- A poller that has yet to begin, with a relay in whatever state. -/
def debut (r : Relay) (capacity : Option Nat) (asleep ending : Nat) : Scene where
  poller := .new r (.ofCapacity capacity)
  asleep := asleep
  ending := ending
  history := []

/-- What a poller begins with. -/
def greeting (stamp : Timestamp) (r : Relay) : List Action :=
  if r.settings.pluginSettings.skipInitialStatus then [] else [.sendInitial stamp]

/-- The report before the first, if there is one. -/
def initial? (stamp : Timestamp) (r : Relay) : Option Status :=
  if r.settings.pluginSettings.skipInitialStatus = true ∨ r.settings.conditions = [] then none
  else some (.initial r.name r.settings.conditions stamp)

theorem poller_greeting :
    ((r.debut capacity asleep ending).run (r.greeting stamp)).poller =
      (Poller.new r (.ofCapacity capacity)).greet stamp := by
  rw [greeting, Poller.greet]
  cases h : r.settings.pluginSettings.skipInitialStatus <;>
    simp [debut, Poller.new, h, Scene.run, Scene.perform, Scene.work, Scene.outbox, Scene.turn,
      Queue.ofCapacity]

theorem sent_greeting
    (hroom : ∀ o ∈ (r.debut capacity asleep ending).offers (r.greeting stamp), o.2 = .accepted) :
    ((r.debut capacity asleep ending).run (r.greeting stamp)).sent =
      (r.initial? stamp).toList := by
  cases hskip : r.settings.pluginSettings.skipInitialStatus with
  | true => simp [greeting, initial?, hskip, Scene.run, debut, Scene.sent]
  | false =>
    have hgreeting : r.greeting stamp = [.sendInitial stamp] := by simp [greeting, hskip]
    rw [hgreeting] at hroom ⊢
    have hsent := Scene.sent_perform hroom
    have hoffer : (r.debut capacity asleep ending).offer? (.sendInitial stamp) =
        r.initial? stamp := by
      by_cases hnone : r.settings.conditions = [] <;>
        simp [Scene.offer?, initial?, hskip, hnone, debut, Scene.outbox, Scene.relay, Poller.new,
          Queue.ofCapacity]
    rw [hoffer] at hsent
    exact hsent

end Relay

/-- Whatever is done in whatever order while the queue refuses nothing, it takes the report before
the first, if there is one, and then just those reports from the plugin that have events or whose
conditions say something else than those of the report right before. What brings no report, as a
poll that is skipped or fails, makes no difference. -/
theorem sent_is_news (r : Relay) (capacity : Option Nat) (asleep ending : Nat) (stamp : Timestamp)
    (actions : List Action) (honce : ∀ a ∈ actions, a.greets = false)
    (hroom : ∀ o ∈ (r.debut capacity asleep ending).offers (r.greeting stamp ++ actions),
      o.2 = .accepted) :
    let s := (r.debut capacity asleep ending).run (r.greeting stamp)
    let t := s.run actions
    s.poller = (Poller.new r (.ofCapacity capacity)).greet stamp ∧
    t.sent =
      (r.initial? stamp).toList ++ Status.changes (r.initial? stamp) (s.reports actions) ∧
    (∀ a, a.greets = false → t.gained? a = none →
      (t.perform a).sent = t.sent ∧ (t.perform a).poller.lastSent = t.poller.lastSent) := by
  intro s t
  rw [Scene.offers_append, List.forall_mem_append] at hroom
  have hinitial : s.sent = (r.initial? stamp).toList := Relay.sent_greeting hroom.1
  have hs : s.poller.lastSent = s.sent.getLast? := Scene.lastSent_run rfl (r.greeting stamp)
  have hbefore : s.poller.lastSent = r.initial? stamp := by
    rw [hs, hinitial]
    cases r.initial? stamp <;> rfl
  have ht : t.poller.lastSent = t.sent.getLast? := Scene.lastSent_run hs actions
  refine ⟨Relay.poller_greeting, ?_, fun a => Scene.idle_perform ht⟩
  have hsent : t.sent = s.sent ++ _ :=
    Scene.sent_run_eq_changes hs (by rw [hbefore]) honce hroom.2
  rw [hsent, hinitial]

/-- The plugin says what was said before the first report, then fails, then repeats itself, then
says something else. -/
theorem sent_is_news_after_failure :
    let settings : Settings :=
      { (Settings.new "gpu" "/run/gpu.sock").withDefaults with
        conditions := [⟨"GPUHealthy", "AllFine", "ok"⟩] }
    let fine : Plugin.Report := ⟨"gpu", [], [⟨"GPUHealthy", 2, some ⟨5, 0⟩, "AllFine", "ok"⟩]⟩
    let hot : Plugin.Report := ⟨"gpu", [], [⟨"GPUHealthy", 1, none, "Hot", "92C"⟩]⟩
    let plugin := Plugin.ofAnswers [.ok fine, .error ⟨.internal, "busy"⟩, .ok fine, .ok hot] [] []
    let r := Relay.new settings (.new .inProcess .empty plugin)
    let s := (r.debut (some 2) 0 0).run (r.greeting .epoch)
    let actions := Action.connect :: (List.range 4).map fun now => .poll now .epoch
    (∀ a ∈ actions, a.greets = false) ∧
    (∀ o ∈ (r.debut (some 2) 0 0).offers (r.greeting .epoch ++ actions), o.2 = .accepted) ∧
    (s.run actions).sent = [
      ⟨"gpu", [], [⟨"GPUHealthy", .absent, .epoch, "AllFine", "ok"⟩]⟩,
      ⟨"gpu", [], [⟨"GPUHealthy", .present, .epoch, "Hot", "92C"⟩]⟩] := by
  intro settings fine hot plugin r s actions
  have honce : ∀ a ∈ actions, a.greets = false := by decide
  have hroom : ∀ o ∈ (r.debut (some 2) 0 0).offers (r.greeting .epoch ++ actions),
      o.2 = .accepted := by decide
  refine ⟨honce, hroom, ?_⟩
  rw [(sent_is_news r (some 2) 0 0 .epoch actions honce hroom).2.1]
  decide

end HealthRelay
