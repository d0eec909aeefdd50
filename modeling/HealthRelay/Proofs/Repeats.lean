import HealthRelay.Proofs.Timeless
import Mathlib.Data.List.Forall2

/-!
When a report is held back, in the terms of the plugin: its conditions say what those of the report
before it said, each in its place, and it has no events.
-/
namespace HealthRelay

/-- Numbers are read as the same if they are the same known number, or if neither is known. -/
theorem Presence.ofNumber_eq_iff {m n : Int} :
    ofNumber m = ofNumber n ↔ (m = 1 ↔ n = 1) ∧ (m = 2 ↔ n = 2) := by
  unfold ofNumber
  split_ifs <;> simp_all

namespace Plugin

variable {c d e : Condition} {before after later : List Condition}

/-- The conditions say the same, whatever times they give. Of the numbers, only that of a problem
that is there and that of one that is not are told apart from the others. -/
structure Condition.Repeats (c d : Condition) : Prop where
  type : c.type = d.type
  isPresent : c.status = 1 ↔ d.status = 1
  isAbsent : c.status = 2 ↔ d.status = 2
  reason : c.reason = d.reason
  message : c.message = d.message

/-- There are as many conditions after as before, and each says what the one in its place said. -/
def Repeats (before after : List Condition) : Prop :=
  before.length = after.length ∧
    ∀ i (h : i < before.length) (h' : i < after.length), before[i].Repeats after[i]

theorem Condition.facts_ofPlugin (received : Timestamp) (c : Condition) :
    (HealthRelay.Condition.ofPlugin received c).facts =
      (c.type, .ofNumber c.status, c.reason, c.message) := rfl

theorem Condition.facts_eq_iff {received received' : Timestamp} :
    (HealthRelay.Condition.ofPlugin received c).facts =
        (HealthRelay.Condition.ofPlugin received' d).facts ↔ c.Repeats d := by
  simp only [facts_ofPlugin, Prod.mk.injEq, Presence.ofNumber_eq_iff]
  constructor
  · rintro ⟨htype, ⟨hpresent, habsent⟩, hreason, hmessage⟩
    exact ⟨htype, hpresent, habsent, hreason, hmessage⟩
  · rintro ⟨htype, hpresent, habsent, hreason, hmessage⟩
    exact ⟨htype, ⟨hpresent, habsent⟩, hreason, hmessage⟩

theorem repeats_iff_forall₂ : Repeats before after ↔ List.Forall₂ Condition.Repeats before after :=
  List.forall₂_iff_get.symm

theorem Condition.repeats_equivalence : Equivalence Condition.Repeats where
  refl _ := ⟨rfl, .rfl, .rfl, rfl, rfl⟩
  symm h := ⟨h.type.symm, h.isPresent.symm, h.isAbsent.symm, h.reason.symm, h.message.symm⟩
  trans h h' := ⟨h.type.trans h'.type, h.isPresent.trans h'.isPresent,
    h.isAbsent.trans h'.isAbsent, h.reason.trans h'.reason, h.message.trans h'.message⟩

theorem repeats_equivalence : Equivalence Repeats where
  refl conditions := ⟨rfl, fun i _ _ => Condition.repeats_equivalence.refl conditions[i]⟩
  symm := fun ⟨hlength, hrepeats⟩ =>
    ⟨hlength.symm, fun i h h' => Condition.repeats_equivalence.symm (hrepeats i h' h)⟩
  trans := by
    rintro before after later ⟨hlength, hrepeats⟩ ⟨hlength', hrepeats'⟩
    refine ⟨hlength.trans hlength', fun i h h' => ?_⟩
    have hmiddle : i < after.length := hlength ▸ h
    exact Condition.repeats_equivalence.trans (hrepeats i h hmiddle) (hrepeats' i hmiddle h')

/-- What two reports say when they have been converted is the same just if the second repeats the
first. -/
theorem facts_ofReport_eq_iff {w w' : Report} {received received' : Timestamp} :
    (Status.ofReport received w).facts = (Status.ofReport received' w').facts ↔
      Repeats w.conditions w'.conditions := by
  simp only [Status.facts, Status.ofReport, List.map_map, ← List.forall₂_eq_eq_eq,
    List.forall₂_map_left_iff, List.forall₂_map_right_iff, Function.comp_apply,
    Condition.facts_eq_iff, repeats_iff_forall₂]

end Plugin

theorem Status.events_ofReport_eq_nil_iff {received : Timestamp} {w : Plugin.Report} :
    (ofReport received w).events = [] ↔ w.events = [] :=
  List.map_eq_nil_iff

/-- After one report the next is held back just if it has no events and repeats the conditions.
Where the reports come from, the events of the first, all times they give and when they were
received make no difference. Conditions that repeat one another are equivalent. -/
theorem held_back_iff_repeats :
    (∀ (w w' : Plugin.Report) (received received' : Timestamp),
      let held := Status.ofReport received w
      let next := Status.ofReport received' w'
      (Status.shouldEmit (some held) next = false ↔
        w'.events = [] ∧ Plugin.Repeats w.conditions w'.conditions) ∧
      Status.shouldEmit (some held) next =
        Status.shouldEmit (some (.ofReport .epoch { w.timeless with source := "", events := [] }))
          (.ofReport .epoch { w'.timeless with source := "" })) ∧
    Equivalence Plugin.Repeats := by
  refine ⟨?_, Plugin.repeats_equivalence⟩
  intro w w' received received' held next
  constructor
  · rw [Status.shouldEmit_eq_false_iff, ← Status.events_ofReport_eq_nil_iff,
      ← Plugin.facts_ofReport_eq_iff]
    simp only [Option.some.injEq, exists_eq_left']
    rfl
  · calc
      _ = Status.shouldEmit (some held.timeless) next.timeless :=
        (Status.shouldEmit_timeless (some held) next).symm
      _ = Status.shouldEmit (some (.ofReport .epoch w.timeless)) (.ofReport .epoch w'.timeless) := by
        rw [Status.ofReport_timeless received, Status.ofReport_timeless received']
      -- What remains is not looked at.
      _ = _ := rfl

/-- Two numbers that stand for nothing known repeat one another. -/
example :
    Status.shouldEmit
      (some (.ofReport .epoch ⟨"gpu", [], [⟨"GPUHealthy", 7, none, "Lost", "no answer"⟩]⟩))
      (.ofReport .epoch ⟨"", [], [⟨"GPUHealthy", -1, some ⟨5, -3⟩, "Lost", "no answer"⟩]⟩) =
        false := by
  decide

end HealthRelay
