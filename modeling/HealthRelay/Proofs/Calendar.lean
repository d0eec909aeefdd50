import HealthRelay.Timestamp
import Mathlib.Tactic.IntervalCases

/-!
The calendar, both ways: the day with a number is a day of the calendar and has that number.
-/
namespace HealthRelay.Date

variable {dayOfEra century cycle year day y : Nat} {era march days : Int}

/-- Where a day stands in its era: the century, the cycle of four years, the year of the cycle and
the day of the year. Only the last year of a cycle has a day 365, and not that of a century but the
last. -/
structure EraDay (dayOfEra century cycle year day : Nat) : Prop where
  century_le : century ≤ 3
  cycle_le : cycle ≤ 24
  year_le : year ≤ 3
  day_le : day ≤ 365
  leap : day = 365 → year = 3 ∧ (cycle = 24 → century = 3)
  dayOfEra_eq : dayOfEra = 36524 * century + 1461 * cycle + 365 * year + day

/-- Centuries and years are cut by division, but the last of each takes the leap day too. -/
theorem exists_eraDay (h : dayOfEra < 146097) :
    ∃ century cycle year day, EraDay dayOfEra century cycle year day := by
  refine ⟨min (dayOfEra / 36524) 3, (dayOfEra - 36524 * min (dayOfEra / 36524) 3) / 1461,
    min ((dayOfEra - 36524 * min (dayOfEra / 36524) 3) % 1461 / 365) 3,
    (dayOfEra - 36524 * min (dayOfEra / 36524) 3) % 1461 -
      365 * min ((dayOfEra - 36524 * min (dayOfEra / 36524) 3) % 1461 / 365) 3, ?_⟩
  constructor <;> omega

namespace EraDay

theorem yearOfEra_lt (h : EraDay dayOfEra century cycle year day) :
    100 * century + 4 * cycle + year < 400 := by
  obtain ⟨hcentury, hcycle, hyear, -, -, -⟩ := h
  omega

/-- The year of the era, with the leap days before taken out of the count of days. -/
theorem yearOfEra (h : EraDay dayOfEra century cycle year day) :
    (dayOfEra - dayOfEra / 1460 + dayOfEra / 36524 - dayOfEra / 146096) / 365 =
      100 * century + 4 * cycle + year := by
  obtain ⟨hcentury, hcycle, hyear, hday, hleap, heq⟩ := h
  have hcenturies : dayOfEra / 36524 = century ∧ dayOfEra / 146096 = 0 ∨
      dayOfEra / 36524 = century + 1 ∧ dayOfEra / 146096 = 1 := by
    by_cases hlast : dayOfEra < 146096
    · left; omega
    · right; omega
  have hcycles : dayOfEra / 1460 =
      25 * century + cycle + if 1460 ≤ 24 * century + cycle + 365 * year + day then 1 else 0 := by
    split <;> omega
  split at hcycles <;> omega

/-- The day of the year is what is left when the days of the years before are taken away. -/
theorem dayOfYear (h : EraDay dayOfEra century cycle year day) :
    dayOfEra - (365 * (100 * century + 4 * cycle + year) +
      (100 * century + 4 * cycle + year) / 4 - (100 * century + 4 * cycle + year) / 100) = day := by
  obtain ⟨hcentury, hcycle, hyear, hday, hleap, heq⟩ := h
  have hfour : (100 * century + 4 * cycle + year) / 4 = 25 * century + cycle := by omega
  have hhundred : (100 * century + 4 * cycle + year) / 100 = century := by omega
  omega

/-- The year that ends with a day 365 is a leap year. -/
theorem isLeap (h : EraDay dayOfEra century cycle year day) (hlast : day = 365) :
    isLeap ((100 * century + 4 * cycle + year : Nat) + era * 400 + 1) = true := by
  obtain ⟨hthree, hcentury⟩ := h.leap hlast
  have hle := h.century_le
  have hcycle := h.cycle_le
  simp only [Date.isLeap, Bool.and_eq_true, Bool.or_eq_true, decide_eq_true_eq, bne_iff_ne]
  omega

end EraDay

/-- The day so many days after the first of March of a year. -/
def ofMarch (march : Int) (day : Nat) : Date :=
  let months := (5 * day + 2) / 153
  let month := if months < 10 then months + 3 else months - 9
  ⟨march + (if month ≤ 2 then 1 else 0), month, day - (153 * months + 2) / 5 + 1⟩

theorem toDays_ofMarch (hy : y < 400) (hday : day ≤ 365) :
    (ofMarch (y + era * 400) day).toDays =
      era * 146097 + (365 * y + y / 4 - y / 100 + day) - 719468 := by
  unfold ofMarch toDays
  dsimp only
  generalize hmonths : (5 * day + 2) / 153 = months
  have hbegin : (153 * months + 2) / 5 ≤ day := by omega
  have hera : (y + era * 400) / 400 = era ∧ (y + era * 400) % 400 = y := by omega
  have hmonth : ((if months < 10 then months + 3 else months - 9) + 9) % 12 = months := by
    split <;> omega
  have hyear (b : Prop) [Decidable b] : (if b then (y + era * 400 + if b then 1 else 0) - 1
      else y + era * 400 + if b then 1 else 0) = y + era * 400 := by
    split <;> omega
  rw [hmonth, hyear, hera.1, hera.2]
  omega

theorem isValid_ofMarch (hday : day ≤ 365) (hleap : day = 365 → isLeap (march + 1) = true) :
    (ofMarch march day).isValid = true := by
  unfold ofMarch isValid
  dsimp only
  generalize hmonths : (5 * day + 2) / 153 = months
  have hlt : months ≤ 11 := by omega
  interval_cases months
  case «11» =>
    -- February comes last, and its length depends on the year.
    cases h : isLeap (march + 1) with
    | true =>
      simp [daysInMonth, h]
      omega
    | false =>
      have hne : day ≠ 365 := by
        intro heq
        simp [hleap heq] at h
      simp [daysInMonth, h]
      omega
  all_goals
    simp [daysInMonth]
    omega

/-- The day with a number, by its era and where it stands in it. -/
theorem ofDays_eq (days : Int) :
    ∃ (era : Int) (dayOfEra century cycle year day : Nat),
      EraDay dayOfEra century cycle year day ∧ days = era * 146097 + dayOfEra - 719468 ∧
      ofDays days = ofMarch ((100 * century + 4 * cycle + year : Nat) + era * 400) day := by
  have hlt : ((days + 719468) % 146097).toNat < 146097 := by omega
  obtain ⟨century, cycle, year, day, h⟩ := exists_eraDay hlt
  refine ⟨(days + 719468) / 146097, _, century, cycle, year, day, h, by omega, ?_⟩
  simp only [ofDays, h.yearOfEra, h.dayOfYear, ofMarch]

theorem toDays_ofDays (days : Int) : (ofDays days).toDays = days := by
  obtain ⟨era, dayOfEra, century, cycle, year, day, h, rfl, heq⟩ := ofDays_eq days
  rw [heq, toDays_ofMarch h.yearOfEra_lt h.day_le]
  obtain ⟨hcentury, hcycle, hyear, hday, hleap, rfl⟩ := h
  omega

theorem isValid_ofDays (days : Int) : (ofDays days).isValid = true := by
  obtain ⟨era, dayOfEra, century, cycle, year, day, h, rfl, heq⟩ := ofDays_eq days
  rw [heq]
  exact isValid_ofMarch h.day_le h.isLeap

/-- The days of all points in time are in the years that there are points in time in. -/
theorem year_ofDays (hge : -96465292 ≤ days) (hle : days ≤ 95026236) :
    -262143 ≤ (ofDays days).year ∧ (ofDays days).year ≤ 262142 := by
  obtain ⟨era, dayOfEra, century, cycle, year, day, h, rfl, heq⟩ := ofDays_eq days
  obtain ⟨hcentury, hcycle, hyear, hday, hleap, rfl⟩ := h
  rw [heq]
  simp only [ofMarch]
  constructor
  · split <;> omega
  · have hearly : era ≤ 654 ∨ century = 0 ∨ century = 1 := by omega
    rcases hearly with hera | rfl | rfl <;> split <;> omega

end HealthRelay.Date
