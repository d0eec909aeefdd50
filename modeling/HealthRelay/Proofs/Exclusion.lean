import HealthRelay.Proofs.Ownership
import Mathlib.Logic.Function.Basic

/-!
Attempts to connect again from several sides at once: of all that are made, one at most has begun
and not ended, and the relay says so.

A caller goes through its attempt by turns. Between two of them any other caller may take its own,
and anything else may happen to the relay.
-/
namespace HealthRelay

variable {Caller : Type} [DecidableEq Caller] {r : Relay} {now : Nat} {outcome : Outcome}

/-- An attempt that has begun can end so. -/
def Outcome.endsAttempt : Outcome → Bool
  | .interrupted | .endpointMissing | .failed | .connected => true
  | .debounced | .inProgress | .gaveUp => false

namespace Relay

/-- An attempt after its delay, up to where it connects, unless it is over before. -/
def surveyAttempt (r : Relay) : Option Outcome × Relay :=
  if r.stopping then (some .interrupted, r)
  else match r.link.files.lookup r.endpoint with
    | .error e =>
      (some .endpointMissing,
        r.remark .debug "Socket not available" [("endpoint", r.endpoint), ("error", e.message)])
    | .ok _ => (none, r)

/-- An attempt connects. -/
def dialAttempt (r : Relay) : Outcome × Relay :=
  match r.connect with
  | (.ok _, r) => (.connected, r.remark .info "Successfully reconnected" [])
  | (.error e, r) => (.failed, r.remark .warn "Reconnection failed" [("error", e.message)])

theorem wakeAttempt_eq (r : Relay) :
    r.wakeAttempt =
      match r.surveyAttempt with
      | (some outcome, r) => (outcome, r)
      | (none, r) => r.dialAttempt := by
  rw [wakeAttempt, surveyAttempt]
  split
  · rfl
  · cases r.link.files.lookup r.endpoint <;> rfl

theorem surveyAttempt_cases (r : Relay) :
    (∃ outcome journal, outcome.endsAttempt = true ∧
      r.surveyAttempt = (some outcome, { r with journal := journal })) ∨
    r.surveyAttempt = (none, r) := by
  rw [surveyAttempt]
  split
  · exact .inl ⟨.interrupted, _, rfl, rfl⟩
  · split
    · exact .inl ⟨.endpointMissing, _, rfl, rfl⟩
    · exact .inr rfl

theorem dialAttempt_cases (r : Relay) :
    ∃ outcome journal, outcome.endsAttempt = true ∧
      r.dialAttempt = (outcome, { r.connect.2 with journal := journal }) := by
  rw [dialAttempt]
  rcases r.connect with ⟨e | _, r'⟩
  · exact ⟨.failed, _, rfl, rfl⟩
  · exact ⟨.connected, _, rfl, rfl⟩

end Relay

/-- What a caller is at. -/
inductive Stage where
  /-- It makes no attempt. If it made one before, that went so. -/
  | idle (last : Option Outcome)
  /-- Its attempt waits out its delay. -/
  | asleep
  /-- Its attempt is about to connect. -/
  | dialing
  /-- Its attempt has gone so, and has yet to let others begin. -/
  | ending (outcome : Outcome)

/-- An attempt has begun and has not ended. -/
def Stage.isUnderway : Stage → Bool
  | .idle _ => false
  | .asleep | .dialing | .ending _ => true

/-- A relay and those who make attempts with it. -/
structure Crowd (Caller : Type) where
  relay : Relay
  stage : Caller → Stage

/-- What happens without interruption. The first four are the turns of a caller. -/
inductive Turn (Caller : Type) where
  | enter (i : Caller) (now : Nat)
  | survey (i : Caller)
  | dial (i : Caller)
  | finish (i : Caller)
  /-- A call failed. -/
  | fail (e : CallError)
  /-- A call succeeded. -/
  | succeed
  /-- A poll is sent. -/
  | ask
  /-- The plugin is told to stop. -/
  | tell (session : Nat)
  | closeSession
  /-- The monitor is to be stopped. -/
  | signal
  | sever
  | setReachable (reachable : Bool)
  | setFiles (files : FileTree)

namespace Crowd

variable {c c' : Crowd Caller} {turn : Turn Caller} {i j : Caller}

/-- Nobody has made an attempt yet. -/
def around (r : Relay) : Crowd Caller := ⟨r, fun _ => .idle none⟩

/-- With a caller at another stage, and another relay. -/
def move (i : Caller) (stage : Stage) (r : Relay) (c : Crowd Caller) : Crowd Caller :=
  ⟨r, Function.update c.stage i stage⟩

/-- Something happens to the relay only. -/
def touch (r : Relay) (c : Crowd Caller) : Crowd Caller := { c with relay := r }

/-- The attempt of a caller has begun and has not ended. -/
def InFlight (c : Crowd Caller) (i : Caller) : Prop := (c.stage i).isUnderway = true

instance : Decidable (c.InFlight i) := inferInstanceAs (Decidable (_ = true))

/-- A caller begins an attempt only when it makes none, and takes its turns in order. -/
def perform (c : Crowd Caller) : Turn Caller → Crowd Caller
  | .enter i now =>
    if c.InFlight i then c
    else match c.relay.beginAttempt now with
      | (.refused outcome, r) => c.move i (.idle (some outcome)) r
      | (.waiting _, r) => c.move i .asleep r
  | .survey i =>
    match c.stage i with
    | .asleep =>
      match c.relay.surveyAttempt with
      | (some outcome, r) => c.move i (.ending outcome) r
      | (none, r) => c.move i .dialing r
    | _ => c
  | .dial i =>
    match c.stage i with
    | .dialing => c.move i (.ending c.relay.dialAttempt.1) c.relay.dialAttempt.2
    | _ => c
  | .finish i =>
    match c.stage i with
    | .ending outcome => c.move i (.idle (some outcome)) c.relay.endAttempt
    | _ => c
  | .fail e => c.touch (c.relay.recordFailure e).2
  | .succeed => c.touch c.relay.recordSuccess
  | .ask => c.relay.ask?.elim c fun asked => c.touch asked.2
  | .tell session => c.touch { c.relay with link := (c.relay.link.stop session).2 }
  | .closeSession => c.touch c.relay.closeSession
  | .signal => c.touch { c.relay with stopping := true }
  | .sever => c.touch { c.relay with link := c.relay.link.sever }
  | .setReachable reachable =>
    c.touch { c.relay with link := c.relay.link.setReachable reachable }
  | .setFiles files => c.touch { c.relay with link := c.relay.link.updateFiles fun _ => files }

def run (c : Crowd Caller) (turns : List (Turn Caller)) : Crowd Caller := turns.foldl perform c

@[simp] theorem stage_move_self {stage : Stage} : (c.move i stage r).stage i = stage :=
  Function.update_self ..

theorem stage_move_of_ne {stage : Stage} (h : j ≠ i) :
    (c.move i stage r).stage j = c.stage j := Function.update_of_ne h ..

@[simp] theorem inFlight_move_self {stage : Stage} :
    (c.move i stage r).InFlight i ↔ stage.isUnderway = true := by
  rw [InFlight, stage_move_self]

theorem inFlight_move_of_ne {stage : Stage} (h : j ≠ i) :
    (c.move i stage r).InFlight j ↔ c.InFlight j := by
  rw [InFlight, stage_move_of_ne h, InFlight]

/-- Who makes an attempt is still as before when one caller goes on with its own. -/
theorem inFlight_move_iff {stage : Stage} (h : c.InFlight i ↔ stage.isUnderway = true)
    (j : Caller) : (c.move i stage r).InFlight j ↔ c.InFlight j := by
  by_cases hj : j = i
  · subst j
    rw [inFlight_move_self, h]
  · exact inFlight_move_of_ne hj

/-- What a turn means for the attempts in flight. Either they stay the same, and a session is opened
only by one that connects; or one begins, or one ends. -/
inductive Shift (c : Crowd Caller) (turn : Turn Caller) (c' : Crowd Caller) : Prop where
  | same (inFlight : ∀ i, c'.InFlight i ↔ c.InFlight i)
      (flag : c'.relay.connection.reconnecting = c.relay.connection.reconnecting)
      (opened : c'.relay.link.openCount = c.relay.link.openCount ∨
        ∃ i, turn = .dial i ∧ c.stage i = .dialing)
  | begun (i : Caller) (before : c.relay.connection.reconnecting = false)
      (after : c'.relay.connection.reconnecting = true) (crowd : c' = c.move i .asleep c'.relay)
      (opened : c'.relay.link.openCount = c.relay.link.openCount)
  | ended (i : Caller) (outcome : Outcome) (stage : c.stage i = .ending outcome)
      (crowd : c' = c.move i (.idle (some outcome)) c.relay.endAttempt)

theorem shift_of_touch (hflag : r.connection.reconnecting = c.relay.connection.reconnecting)
    (hopened : r.link.openCount = c.relay.link.openCount) : Shift c turn (c.touch r) :=
  .same (fun _ => .rfl) hflag (.inl hopened)

theorem shift_enter (c : Crowd Caller) (i : Caller) (now : Nat) :
    Shift c (.enter i now) (c.perform (.enter i now)) := by
  by_cases hi : c.InFlight i
  · rw [perform, if_pos hi]
    exact .same (fun _ => .rfl) rfl (.inl rfl)
  · have hrefused (outcome : Outcome) : c.InFlight i ↔ (Stage.idle (some outcome)).isUnderway := by
      simp [hi, Stage.isUnderway]
    simp only [perform, if_neg hi]
    obtain ⟨-, heq⟩ | ⟨-, -, heq⟩ | ⟨-, -, -, journal, heq⟩ | ⟨hidle, -, -, journal, heq⟩ :=
      c.relay.beginAttempt_cases now <;> rw [heq]
    · exact .same (inFlight_move_iff (hrefused _)) rfl (.inl rfl)
    · exact .same (inFlight_move_iff (hrefused _)) rfl (.inl rfl)
    · exact .same (inFlight_move_iff (hrefused _)) rfl (.inl rfl)
    · exact .begun i hidle rfl rfl rfl

theorem shift_survey (c : Crowd Caller) (i : Caller) :
    Shift c (.survey i) (c.perform (.survey i)) := by
  simp only [perform]
  split
  · next hasleep =>
    have hi : c.InFlight i := by
      rw [InFlight, hasleep]
      rfl
    obtain ⟨outcome, journal, -, heq⟩ | heq := c.relay.surveyAttempt_cases <;> rw [heq] <;>
      exact .same (inFlight_move_iff (iff_of_true hi rfl)) rfl (.inl rfl)
  · exact .same (fun _ => .rfl) rfl (.inl rfl)

theorem shift_dial (c : Crowd Caller) (i : Caller) :
    Shift c (.dial i) (c.perform (.dial i)) := by
  simp only [perform]
  split
  · next hdialing =>
    have hi : c.InFlight i := by
      rw [InFlight, hdialing]
      rfl
    obtain ⟨outcome, journal, -, heq⟩ := c.relay.dialAttempt_cases
    rw [heq]
    exact .same (inFlight_move_iff (iff_of_true hi rfl)) Relay.connect_reconnecting
      (.inr ⟨i, rfl, hdialing⟩)
  · exact .same (fun _ => .rfl) rfl (.inl rfl)

theorem shift_perform (c : Crowd Caller) (turn : Turn Caller) : Shift c turn (c.perform turn) := by
  cases turn with
  | enter i now => exact c.shift_enter i now
  | survey i => exact c.shift_survey i
  | dial i => exact c.shift_dial i
  | finish i =>
    simp only [perform]
    split
    · next outcome hending => exact .ended i outcome hending rfl
    · exact .same (fun _ => .rfl) rfl (.inl rfl)
  | fail e =>
    exact shift_of_touch Relay.recordFailure_reconnecting (by rw [Relay.recordFailure_link])
  | ask =>
    simp only [perform]
    rcases hask : c.relay.ask? with _ | ⟨answer, asked⟩
    · exact .same (fun _ => .rfl) rfl (.inl rfl)
    · obtain ⟨session, link, -, hcall, rfl⟩ := Relay.ask?_eq_some hask
      have hlink : (c.relay.link.checkHealth session _ _).2 = link := congrArg Prod.snd hcall
      exact shift_of_touch rfl (hlink ▸ Link.openCount_call)
  | tell session => exact shift_of_touch rfl Link.openCount_call
  | closeSession => exact shift_of_touch rfl c.relay.openCount_closeSession
  | sever => exact shift_of_touch rfl Link.openCount_sever
  | succeed | signal | setReachable | setFiles => exact shift_of_touch rfl rfl

/-- One caller at most has an attempt in flight, and the relay says whether one has. -/
structure Exclusive (c : Crowd Caller) : Prop where
  single : ∀ i j, c.InFlight i → c.InFlight j → i = j
  flagged : c.relay.connection.reconnecting = true ↔ ∃ i, c.InFlight i

omit [DecidableEq Caller] in
theorem exclusive_around (h : r.connection.reconnecting = false) :
    Exclusive (around r : Crowd Caller) where
  single i j hi := by cases hi
  flagged := by simp [around, h, InFlight, Stage.isUnderway]

theorem exclusive_shift (h : Shift c turn c') (hc : Exclusive c) : Exclusive c' := by
  cases h with
  | same hinFlight hflag hopened =>
    refine ⟨?_, ?_⟩
    · intro i j hi hj
      exact hc.single i j ((hinFlight i).1 hi) ((hinFlight j).1 hj)
    · simp only [hflag, hinFlight, hc.flagged]
  | begun i hbefore hafter hcrowd hopened =>
    have hnone : ∀ j, ¬ c.InFlight j := by
      intro j hj
      have hset := hc.flagged.2 ⟨j, hj⟩
      rw [hbefore] at hset
      cases hset
    have hown : ∀ j, c'.InFlight j ↔ j = i := by
      intro j
      rw [hcrowd]
      by_cases hj : j = i
      · subst j
        exact iff_of_true (inFlight_move_self.2 rfl) rfl
      · exact iff_of_false (fun h => hnone j ((inFlight_move_of_ne hj).1 h)) hj
    refine ⟨?_, iff_of_true hafter ⟨i, (hown i).2 rfl⟩⟩
    intro j k hj hk
    rw [(hown j).1 hj, (hown k).1 hk]
  | ended i outcome hstage hcrowd =>
    have hi : c.InFlight i := by
      rw [InFlight, hstage]
      rfl
    have hnone : ∀ j, ¬ c'.InFlight j := by
      intro j hj
      rw [hcrowd] at hj
      by_cases hne : j = i
      · subst j
        cases inFlight_move_self.1 hj
      · exact hne (hc.single j i ((inFlight_move_of_ne hne).1 hj) hi)
    refine ⟨fun j k hj => absurd hj (hnone j), iff_of_false ?_ fun ⟨j, hj⟩ => hnone j hj⟩
    rw [hcrowd]
    exact Bool.false_ne_true

/-- An attempt that is over has gone in one of the ways that end it. -/
def Settled (c : Crowd Caller) : Prop :=
  ∀ i outcome, c.stage i = .ending outcome → outcome.endsAttempt = true

theorem settled_move {stage : Stage} (hc : Settled c)
    (h : ∀ outcome, stage = .ending outcome → outcome.endsAttempt = true) :
    Settled (c.move i stage r) := by
  intro j outcome hj
  by_cases hne : j = i
  · subst j
    rw [stage_move_self] at hj
    exact h outcome hj
  · rw [stage_move_of_ne hne] at hj
    exact hc j outcome hj

theorem settled_perform (hc : Settled c) (turn : Turn Caller) : Settled (c.perform turn) := by
  cases turn with
  | enter i now =>
    simp only [perform]
    split
    · exact hc
    · split <;> exact settled_move hc (by simp)
  | survey i =>
    simp only [perform]
    split
    · obtain ⟨outcome, journal, hends, heq⟩ | heq := c.relay.surveyAttempt_cases <;> rw [heq]
      · exact settled_move hc (by simpa using hends)
      · exact settled_move hc (by simp)
    · exact hc
  | dial i =>
    simp only [perform]
    split
    · obtain ⟨outcome, journal, hends, heq⟩ := c.relay.dialAttempt_cases
      rw [heq]
      exact settled_move hc (by simpa using hends)
    · exact hc
  | finish i =>
    simp only [perform]
    split
    · exact settled_move hc (by simp)
    · exact hc
  | ask =>
    simp only [perform]
    cases c.relay.ask? <;> exact hc
  | fail | succeed | tell | closeSession | signal | sever | setReachable | setFiles => exact hc

theorem run_keeps {I : Crowd Caller → Prop}
    (hperform : ∀ {c : Crowd Caller}, I c → ∀ turn, I (c.perform turn)) (hc : I c)
    (turns : List (Turn Caller)) : I (c.run turns) := by
  induction turns generalizing c with
  | nil => exact hc
  | cons turn turns ih => exact ih (hperform hc turn)

theorem exclusive_run (hc : Exclusive c) (turns : List (Turn Caller)) : Exclusive (c.run turns) :=
  run_keeps (fun h turn => exclusive_shift (shift_perform _ turn) h) hc turns

theorem settled_run (hc : Settled c) (turns : List (Turn Caller)) : Settled (c.run turns) :=
  run_keeps settled_perform hc turns

/-- An attempt that nothing comes between is the attempt of a relay. -/
theorem run_alone (h : ¬ c.InFlight i) (now : Nat) :
    c.run [.enter i now, .survey i, .dial i, .finish i] =
      c.move i (.idle (some (c.relay.attemptReconnection now).1))
        (c.relay.attemptReconnection now).2 := by
  have hover (outcome : Outcome) (r r' : Relay) (stage : Stage) :
      (c.move i stage r).move i (.idle (some outcome)) r' = c.move i (.idle (some outcome)) r' := by
    simp [move]
  simp only [run, List.foldl_cons, List.foldl_nil, Relay.attemptReconnection]
  rw [perform, if_neg h]
  rcases c.relay.beginAttempt now with ⟨outcome | delay, r⟩
  · simp [perform]
  · simp only [Relay.finishAttempt, r.wakeAttempt_eq]
    rcases hsurvey : r.surveyAttempt with ⟨_ | outcome, r'⟩
    · simp [perform, hsurvey, move]
    · simp [perform, hsurvey, move]

/-- When an attempt ends, the relay says that none is under way. -/
theorem perform_finish (hc : Exclusive c) (h : c.stage i = .ending outcome) :
    let ended := c.perform (.finish i)
    ended.stage i = .idle (some outcome) ∧
      ended.relay.connection.reconnecting = false ∧ ∀ j, ¬ ended.InFlight j := by
  intro ended
  have hcrowd : ended = c.move i (.idle (some outcome)) c.relay.endAttempt := by
    simp only [ended, perform, h]
  have hended : Exclusive ended := exclusive_shift (c.shift_perform (.finish i)) hc
  have hflag : ended.relay.connection.reconnecting = false := by
    rw [hcrowd]
    rfl
  refine ⟨by rw [hcrowd, stage_move_self], hflag, ?_⟩
  intro j hj
  have hset := hended.flagged.2 ⟨j, hj⟩
  rw [hflag] at hset
  cases hset

/-- An attempt in flight is over after its next turns at the latest, whatever it finds. -/
theorem exists_ending (hi : c.InFlight i) :
    ∃ outcome, (c.run [.survey i, .dial i]).stage i = .ending outcome := by
  simp only [run, List.foldl_cons, List.foldl_nil]
  cases hstage : c.stage i with
  | idle last => simp [InFlight, hstage, Stage.isUnderway] at hi
  | asleep =>
    obtain ⟨outcome, journal, -, heq⟩ | heq := c.relay.surveyAttempt_cases <;>
      simp [perform, hstage, heq]
  | dialing => simp [perform, hstage]
  | ending outcome => simp [perform, hstage]

/-- A session is opened only by the attempt in flight. -/
theorem dials_of_opened (hc : Exclusive c)
    (h : (c.perform turn).relay.link.openCount ≠ c.relay.link.openCount) :
    ∃ i, turn = .dial i ∧ c.stage i = .dialing ∧ ∀ j, c.InFlight j ↔ j = i := by
  cases c.shift_perform turn with
  | same hinFlight hflag hopened =>
    obtain ⟨i, hturn, hdialing⟩ := hopened.resolve_left h
    have hi : c.InFlight i := by
      rw [InFlight, hdialing]
      rfl
    refine ⟨i, hturn, hdialing, ?_⟩
    intro j
    constructor
    · intro hj
      exact hc.single j i hj hi
    · rintro rfl
      exact hi
  | begun i hbefore hafter hcrowd hopened => exact absurd hopened h
  | ended i outcome hstage hcrowd =>
    rw [hcrowd] at h
    exact absurd rfl h

theorem perform_enter_of_reconnecting (hi : ¬ c.InFlight i)
    (h : c.relay.connection.reconnecting = true) :
    c.perform (.enter i now) = c.move i (.idle (some .inProgress)) c.relay := by
  simp [perform, hi, Relay.beginAttempt, h]

end Crowd

/-- However the turns of any number of callers follow on each other, and whatever else happens in
between, one attempt at most is in flight, and the relay says that one is under way just while one
is. A caller that finds it say so is told so, and leaves the relay alone. Only the attempt in flight
opens a session. An attempt ends interrupted, without an endpoint, failed or connected, and then the
relay says that none is under way; the turns of its caller bring it there from wherever it is.
Without anything in between, the turns of a caller are an attempt of the relay. -/
theorem one_attempt_in_flight (r : Relay) (h : r.connection.reconnecting = false)
    (turns : List (Turn Caller)) :
    let c := (Crowd.around r).run turns
    (∀ i j, c.InFlight i → c.InFlight j → i = j) ∧
    (c.relay.connection.reconnecting = true ↔ ∃ i, c.InFlight i) ∧
    (∀ i now, ¬ c.InFlight i → c.relay.connection.reconnecting = true →
      c.perform (.enter i now) = c.move i (.idle (some .inProgress)) c.relay) ∧
    (∀ turn, (c.perform turn).relay.link.openCount ≠ c.relay.link.openCount →
      ∃ i, turn = .dial i ∧ c.stage i = .dialing ∧ ∀ j, c.InFlight j ↔ j = i) ∧
    (∀ i outcome, c.stage i = .ending outcome →
      let ended := c.perform (.finish i)
      outcome.endsAttempt = true ∧ ended.stage i = .idle (some outcome) ∧
        ended.relay.connection.reconnecting = false ∧ ∀ j, ¬ ended.InFlight j) ∧
    (∀ i, c.InFlight i → ∃ outcome, (c.run [.survey i, .dial i]).stage i = .ending outcome) ∧
    (∀ i now, ¬ c.InFlight i →
      let whole := c.relay.attemptReconnection now
      c.run [.enter i now, .survey i, .dial i, .finish i] =
        c.move i (.idle (some whole.1)) whole.2) := by
  intro c
  have hc : c.Exclusive := Crowd.exclusive_run (Crowd.exclusive_around h) turns
  have hsettled : c.Settled := Crowd.settled_run (fun i outcome hi => by cases hi) turns
  refine ⟨hc.single, hc.flagged, ?_, ?_, ?_, fun i => Crowd.exists_ending, ?_⟩
  · intro i now hi hset
    exact Crowd.perform_enter_of_reconnecting hi hset
  · intro turn hopened
    exact Crowd.dials_of_opened hc hopened
  · intro i outcome hending
    exact ⟨hsettled i outcome hending, Crowd.perform_finish hc hending⟩
  · intro i now hi
    exact Crowd.run_alone hi now

/-- The second of two callers comes while the first one is asleep, and the plugin goes meanwhile. -/
theorem one_attempt_in_flight_of_two :
    let r := Relay.new (Settings.new "gpu" "/run/gpu.sock").withDefaults
      (.new .inProcess .empty .silent)
    let c := (Crowd.around r).run [.enter true 0, .sever, .enter false 1]
    r.connection.reconnecting = false ∧ c.InFlight true ∧
      ∀ j, c.InFlight j → j = true := by
  intro r c
  have htrue : c.InFlight true := by decide
  exact ⟨rfl, htrue, fun j hj => (one_attempt_in_flight r rfl _).1 j true hj htrue⟩

end HealthRelay
