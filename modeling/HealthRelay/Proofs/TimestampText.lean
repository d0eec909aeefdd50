import HealthRelay.Timestamp.Text
import HealthRelay.Proofs.Calendar
import HealthRelay.Proofs.Text.Digits

/-!
A point in time is read back as it is written: years with a sign or of four digits, fractions of
the shortest of the widths, and a leap second as second 60.
-/
namespace HealthRelay.Timestamp

variable {ds rest : List Char} {most width n : Nat} {t : Timestamp}

/-- What follows a number is not part of it. -/
def EndsNumber (rest : List Char) : Prop := ∀ c ∈ rest.head?, c.isDigit = false

theorem endsNumber_cons {c : Char} (h : c.isDigit = false) : EndsNumber (c :: rest) := by
  intro d hd
  obtain rfl := Option.some.inj hd
  exact h

theorem scanDigits_append (hds : ∀ c ∈ ds, c.isDigit = true) (hne : ds ≠ [])
    (hmost : ds.length ≤ most) (hrest : EndsNumber rest) :
    scanDigits most (ds ++ rest) = some (Text.digitsValue ds, rest) := by
  have htake : ((ds ++ rest).takeWhile Char.isDigit).take most = ds := by
    rw [Text.takeWhile_isDigit hds hrest, List.take_of_length_le hmost]
  simp [scanDigits, htake, hne]

theorem dropBlank_digits (hds : ∀ c ∈ ds, c.isDigit = true) (hne : ds ≠ []) :
    Text.dropBlank (ds ++ rest) = ds ++ rest := by
  obtain ⟨c, ds, rfl⟩ := List.exists_cons_of_ne_nil hne
  exact Text.dropBlank_cons (Text.isBlank_of_isDigit (hds c List.mem_cons_self))

theorem scanPair_padded (h : n < 100) (hrest : EndsNumber rest) :
    scanPair (Text.padded 2 n ++ rest) = some (n, rest) := by
  have hdigits (c : Char) (hc : c ∈ Text.padded 2 n) : c.isDigit = true :=
    Text.isDigit_of_mem_padded hc
  have hne : Text.padded 2 n ≠ [] := Text.padded_ne_nil 2 n
  have hlength : (Text.padded 2 n).length = 2 := Text.length_padded (by decide) h
  rw [scanPair, dropBlank_digits hdigits hne,
    scanDigits_append hdigits hne (Nat.le_of_eq hlength) hrest, Text.digitsValue_padded]

theorem scanMark_cons {mark : Char} (h : Text.isBlank mark = false) :
    scanMark mark (mark :: rest) = some rest := by
  simp [scanMark, Text.dropBlank_cons h]

/-- A year of four digits, as it has no sign. -/
theorem scanYear_digits (hds : ∀ c ∈ ds, c.isDigit = true) (hne : ds ≠ []) :
    scanYear (ds ++ rest) = (scanDigits 4 (ds ++ rest)).map fun (n, s) => ((n : Int), s) := by
  obtain ⟨c, ds, rfl⟩ := List.exists_cons_of_ne_nil hne
  have hc : c.isDigit = true := hds c List.mem_cons_self
  have hminus : c ≠ '-' := by
    rintro rfl
    cases hc
  have hplus : c ≠ '+' := by
    rintro rfl
    cases hc
  rw [scanYear, dropBlank_digits hds hne]
  simp [hminus, hplus]

theorem scanYear_yearText (year : Int) (hrest : EndsNumber rest) :
    scanYear (yearText year ++ rest) = some (year, rest) := by
  have hdigits (n : Nat) (c : Char) (hc : c ∈ Text.padded 4 n) : c.isDigit = true :=
    Text.isDigit_of_mem_padded hc
  have hne (n : Nat) : Text.padded 4 n ≠ [] := Text.padded_ne_nil 4 n
  have hscan {most n : Nat} (hmost : (Text.padded 4 n).length ≤ most) :
      scanDigits most (Text.padded 4 n ++ rest) = some (n, rest) := by
    rw [scanDigits_append (hdigits n) (hne n) hmost hrest, Text.digitsValue_padded]
  unfold yearText
  split
  · rename_i hshort
    have hlength : (Text.padded 4 year.toNat).length = 4 :=
      Text.length_padded (by decide) (by omega)
    rw [scanYear_digits (hdigits _) (hne _), hscan (Nat.le_of_eq hlength)]
    simp
    omega
  · rename_i hlong
    have hsigned : scanDigits (Text.padded 4 year.natAbs ++ rest).length
        (Text.padded 4 year.natAbs ++ rest) = some (year.natAbs, rest) := hscan (by simp)
    by_cases hneg : year < 0
    · rw [if_pos hneg, List.cons_append, scanYear, Text.dropBlank_cons (by decide)]
      simp only [hsigned, Option.map_some, Option.some.injEq, Prod.mk.injEq, and_true]
      omega
    · rw [if_neg hneg, List.cons_append, scanYear, Text.dropBlank_cons (by decide)]
      simp only [hsigned, Option.map_some, Option.some.injEq, Prod.mk.injEq, and_true]
      omega

theorem scanFraction_padded (hwidth : 0 < width) (hle : width ≤ 9) (h : n < 10 ^ width)
    (hrest : EndsNumber rest) :
    scanFraction ('.' :: Text.padded width n ++ rest) = some (n * 10 ^ (9 - width), rest) := by
  have hlength : (Text.padded width n).length = width := Text.length_padded hwidth h
  have hdigits : (Text.padded width n ++ rest).takeWhile Char.isDigit = Text.padded width n :=
    Text.takeWhile_isDigit (fun c hc => Text.isDigit_of_mem_padded hc) hrest
  have hkept : (Text.padded width n).take 9 = Text.padded width n :=
    List.take_of_length_le (by omega)
  have hne : Text.padded width n ≠ [] := Text.padded_ne_nil width n
  simp [scanFraction, hdigits, hkept, hne, hlength]

theorem scanFraction_fractionText (h : n < 1000000000) (hrest : EndsNumber rest)
    (hpoint : rest.head? ≠ some '.') :
    scanFraction (fractionText n ++ rest) = some (n, rest) := by
  unfold fractionText
  split
  · rename_i hzero
    subst hzero
    cases rest with
    | nil => rfl
    | cons c rest =>
      have hc : c ≠ '.' := by simpa using hpoint
      simp [scanFraction, hc]
  split
  · rw [scanFraction_padded (by decide) (by decide) (by omega) hrest]
    simp
    omega
  split
  · rw [scanFraction_padded (by decide) (by decide) (by omega) hrest]
    simp
    omega
  · rw [scanFraction_padded (by decide) (by decide) (by omega) hrest]
    simp

namespace Local

variable {l : Local}

/-- The text of a date and time without an offset. -/
def render (l : Local) : List Char :=
  yearText l.date.year ++ '-' :: (Text.padded 2 l.date.month ++ '-' :: (Text.padded 2 l.date.day ++
    'T' :: (Text.padded 2 l.hour ++ ':' :: (Text.padded 2 l.minute ++
      ':' :: (Text.padded 2 l.second ++ fractionText l.nanos)))))

/-- All numbers but the year have the digits that there is room for. -/
structure Fits (l : Local) : Prop where
  month : l.date.month < 100
  day : l.date.day < 100
  hour : l.hour < 100
  minute : l.minute < 100
  second : l.second < 100
  nanos : l.nanos < 1000000000

theorem scanDate_append (h : l.Fits) (hrest : EndsNumber rest) :
    scanDate (yearText l.date.year ++ '-' :: (Text.padded 2 l.date.month ++
      '-' :: (Text.padded 2 l.date.day ++ rest))) = some (l.date, rest) := by
  have hdash (s : List Char) : EndsNumber ('-' :: s) := endsNumber_cons rfl
  have hmark (s : List Char) : scanMark '-' ('-' :: s) = some s := scanMark_cons (by decide)
  simp only [scanDate, scanYear_yearText _ (hdash _), hmark, scanPair_padded h.month (hdash _),
    scanPair_padded h.day hrest, Option.bind_eq_bind, Option.bind_some]

theorem endsNumber_fractionText (hrest : EndsNumber rest) :
    EndsNumber (fractionText n ++ rest) := by
  unfold fractionText
  split
  · exact hrest
  split
  · exact endsNumber_cons rfl
  split <;> exact endsNumber_cons rfl

/-- A date and time is read back as it is written. -/
theorem scanLocal_render (h : l.Fits) (hrest : EndsNumber rest) (hpoint : rest.head? ≠ some '.') :
    scanLocal (l.render ++ rest) = some (l, rest) := by
  have hmiddle (s : List Char) : EndsNumber ('T' :: s) := endsNumber_cons rfl
  have hcolon (s : List Char) : EndsNumber (':' :: s) := endsNumber_cons rfl
  have hmark (s : List Char) : scanMark ':' (':' :: s) = some s := scanMark_cons (by decide)
  simp only [render, List.append_assoc, List.cons_append, scanLocal,
    scanDate_append h (hmiddle _), scanPair_padded h.hour (hcolon _), hmark,
    scanPair_padded h.minute (hcolon _),
    scanPair_padded h.second (endsNumber_fractionText hrest),
    scanFraction_fractionText h.nanos hrest hpoint, Option.bind_eq_bind, Option.bind_some]

end Local

/-- The date and the time of day. -/
def toLocal (t : Timestamp) : Local where
  date := t.date
  hour := t.secondOfDay / 3600
  minute := t.secondOfDay / 60 % 60
  second := t.secondOfDay % 60 + if 1000000000 ≤ t.nanos then 1 else 0
  nanos := if 1000000000 ≤ t.nanos then t.nanos - 1000000000 else t.nanos

theorem render_eq (t : Timestamp) : t.render = t.toLocal.render ++ ['Z'] := by
  simp [render, Local.render, toLocal]

/-- The sign of a year that has not four digits. -/
def yearSign (year : Int) : List Char :=
  if year < 0 then ['-'] else if 9999 < year then ['+'] else []

/-- The text of RFC 3339 in UTC with so many digits of the fraction of a second; a leap second is
second 60. -/
def rfc3339 (t : Timestamp) (width : Nat) : List Char :=
  yearSign t.date.year ++ Text.padded 4 t.date.year.natAbs ++
    '-' :: Text.padded 2 t.date.month ++ '-' :: Text.padded 2 t.date.day ++
    'T' :: Text.padded 2 t.toLocal.hour ++ ':' :: Text.padded 2 t.toLocal.minute ++
    ':' :: Text.padded 2 t.toLocal.second ++
    (if width = 0 then [] else '.' :: Text.padded width (t.nanos % 10 ^ 9 / 10 ^ (9 - width))) ++
    ['Z']

theorem yearText_eq (year : Int) :
    yearText year = yearSign year ++ Text.padded 4 year.natAbs := by
  unfold yearText yearSign
  by_cases hneg : year < 0
  · rw [if_neg (by omega), if_pos hneg, if_pos hneg]
    rfl
  · rw [if_neg hneg, if_neg hneg]
    by_cases hlong : 9999 < year
    · rw [if_neg (by omega), if_pos hlong]
      rfl
    · have habs : year.toNat = year.natAbs := by omega
      rw [if_pos (by omega), if_neg hlong, habs]
      rfl

theorem nanos_toLocal (t : Timestamp) : t.toLocal.nanos = t.nanos % 10 ^ 9 := by
  have hlt := t.nanos_lt
  simp only [toLocal]
  split <;> omega

/-- Of no, three, six and nine digits, a fraction has the fewest that it can be written with. -/
theorem fractionText_eq {n : Nat} (h : n < 10 ^ 9) :
    ∃ width ∈ [0, 3, 6, 9],
      fractionText n =
        (if width = 0 then [] else '.' :: Text.padded width (n / 10 ^ (9 - width))) ∧
      ∀ w ∈ [0, 3, 6, 9], 10 ^ (9 - w) ∣ n ↔ width ≤ w := by
  unfold fractionText
  split
  · exact ⟨0, by simp, rfl, by simp [*]⟩
  split
  · refine ⟨3, by simp, rfl, ?_⟩
    simp only [List.forall_mem_cons, List.not_mem_nil, false_imp_iff, implies_true, and_true]
    omega
  split
  · refine ⟨6, by simp, rfl, ?_⟩
    simp only [List.forall_mem_cons, List.not_mem_nil, false_imp_iff, implies_true, and_true]
    omega
  · refine ⟨9, by simp, by simp, ?_⟩
    simp only [List.forall_mem_cons, List.not_mem_nil, false_imp_iff, implies_true, and_true]
    omega

/-- A point in time is written as RFC 3339 says, with as few digits as keep all of it. -/
theorem render_eq_rfc3339 (t : Timestamp) :
    ∃ width ∈ [0, 3, 6, 9], t.render = t.rfc3339 width ∧
      ∀ w ∈ [0, 3, 6, 9], 10 ^ (9 - w) ∣ t.nanos ↔ width ≤ w := by
  obtain ⟨width, hwidth, htext, hleast⟩ :=
    @fractionText_eq (t.nanos % 10 ^ 9) (Nat.mod_lt _ (by decide))
  refine ⟨width, hwidth, ?_, ?_⟩
  · rw [render_eq, Local.render, nanos_toLocal, htext, yearText_eq]
    simp [rfc3339, toLocal]
  · intro w hw
    rw [← hleast w hw]
    exact (Nat.dvd_mod_iff (pow_dvd_pow 10 (Nat.sub_le 9 w))).symm

theorem secondOfDay_lt (t : Timestamp) : t.secondOfDay < 86400 := by
  simp only [secondOfDay]
  omega

theorem isValid_toLocal (t : Timestamp) : t.toLocal.isValid = true := by
  have hvalid : t.toLocal.date.isValid = true := Date.isValid_ofDays _
  have hyear : -262143 ≤ t.toLocal.date.year ∧ t.toLocal.date.year ≤ 262142 := by
    have hge := t.seconds_ge
    have hle := t.seconds_le
    exact Date.year_ofDays (by omega) (by omega)
  have hlt := t.secondOfDay_lt
  have hhour : t.toLocal.hour < 24 := by
    simp only [toLocal]
    omega
  have hminute : t.toLocal.minute < 60 := by
    simp only [toLocal]
    omega
  have hsecond : t.toLocal.second ≤ 60 := by
    simp only [toLocal]
    split <;> omega
  simp [Local.isValid, isYear, hvalid, hyear, hhour, hminute, hsecond]

theorem fits_toLocal (t : Timestamp) : t.toLocal.Fits := by
  have hvalid := t.isValid_toLocal
  simp only [Local.isValid, Date.isValid, Bool.and_eq_true, decide_eq_true_eq] at hvalid
  obtain ⟨⟨⟨⟨-, ⟨⟨hmonth, hmonth'⟩, hday⟩, hday'⟩, hhour⟩, hminute⟩, hsecond⟩ := hvalid
  have hdays : Date.daysInMonth t.toLocal.date.year t.toLocal.date.month ≤ 31 := by
    unfold Date.daysInMonth
    split
    · split <;> omega
    · split <;> omega
  have hnanos := t.nanos_lt
  refine ⟨by omega, by omega, by omega, by omega, by omega, ?_⟩
  simp only [toLocal]
  split <;> omega

/-- The point in time of its date and time of day. -/
theorem at?_toLocal (t : Timestamp) : t.toLocal.at? 0 = some t := by
  have hday : t.toLocal.date.toDays = t.seconds / 86400 := Date.toDays_ofDays _
  have hleap := t.leap
  have hsecond : t.toLocal.second = 60 ↔ 1000000000 ≤ t.nanos := by
    simp only [toLocal, secondOfDay]
    split <;> omega
  have hclock : ((t.toLocal.hour * 3600 + t.toLocal.minute * 60 +
      if t.toLocal.second = 60 then 59 else t.toLocal.second : Nat) : Int) = t.seconds % 86400 := by
    simp only [hsecond]
    simp only [toLocal, secondOfDay]
    split <;> omega
  have hnanos : t.toLocal.nanos + (if t.toLocal.second = 60 then 1000000000 else 0) = t.nanos := by
    simp only [hsecond]
    simp only [toLocal]
    split <;> omega
  have hseconds : t.toLocal.date.toDays * 86400 + t.seconds % 86400 - 0 = t.seconds := by
    omega
  rw [Local.at?, if_pos t.isValid_toLocal]
  simp only [hclock, hnanos, hseconds]
  simp [ofUnix?, t.seconds_ge, t.seconds_le, t.nanos_lt]
  exact t.leap

/-- A point in time is read back as it is written. -/
theorem parse_of_text (t : Timestamp) : parse t.text = some t := by
  have hoffset : scanOffset (Text.dropBlank ['Z']) = some (0, []) := rfl
  rw [parse, text, String.toList_ofList, render_eq,
    Local.scanLocal_render t.fits_toLocal (endsNumber_cons rfl) (by simp)]
  simp only [hoffset, Option.bind_eq_bind, Option.bind_some]
  exact at?_toLocal t

end HealthRelay.Timestamp
