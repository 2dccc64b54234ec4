import PublicLighting.Foundations.Instants

/-! The cutoff of the retention, a calendar year before an instant. -/

namespace PublicLighting.Operations

open Foundations.Calendar
open Foundations.Instants

inductive ClockError
  | clockInvalid
  deriving DecidableEq, Repr

def ClockError.message : ClockError → String
  | clockInvalid => "retention_clock_invalid"

/-- `utcCalendarYearCutoff`. An invalid `Date` is `none`. -/
def utcCalendarYearCutoff (value : Option ℤ) : Except ClockError (Option ℤ) :=
  match value with
  | none => .error .clockInvalid
  | some instant =>
      let year := getUTCFullYear instant - 1
      let month := getUTCMonth instant
      let day := (utc year (month + 1) 0 0 0 0 0).map fun last => min (getUTCDate instant) (getUTCDate last)
      .ok (day.bind fun day => utc year month day (getUTCHours instant) (getUTCMinutes instant)
        (getUTCSeconds instant)
        (getUTCMilliseconds instant))

/-- PostgreSQL's `timestamp + INTERVAL 'n months'`, in microseconds: the same day of the
other month, or its last one. -/
def plusMonths (months timestamp : ℤ) : ℤ :=
  let date := dateOf (timestamp / 86400000000)
  let total := date.year * 12 + date.month + months
  let day := min date.date (monthLength (total / 12) (total % 12))
  dayOf (total / 12) (total % 12) day * 86400000000 + timestamp % 86400000000

def yearEarlier (date : Date) : Date :=
  ⟨date.year - 1, date.month, min date.date (monthLength (date.year - 1) date.month)⟩

section Days

theorem yearEarlier_exists {date : Date} (given : date.Exists) : (yearEarlier date).Exists := by
  have length := monthLength_bounds (date.year - 1) date.month
  have first := given.date.1
  refine ⟨given.month, ?_, min_le_right _ _⟩
  change 1 ≤ min date.date _
  omega

theorem leap_apart {year : ℤ} (leap : IsLeap year) : ¬ IsLeap (year - 1) := by
  obtain ⟨four, -⟩ := leap
  intro before
  have four' := before.1
  omega

theorem yearEarlier_date {date : Date} (given : date.Exists) :
    (yearEarlier date).date = if date.month = 1 ∧ date.date = 29 then 28 else date.date := by
  obtain ⟨-, -, last⟩ := given
  change min date.date _ = _
  rw [monthLength] at last ⊢
  by_cases february : date.month = 1
  · rw [if_pos february] at last ⊢
    by_cases leap : IsLeap date.year
    · rw [if_pos leap] at last
      rw [if_neg (leap_apart leap)]
      split_ifs <;> omega
    · rw [if_neg leap] at last
      split_ifs <;> omega
  · rw [if_neg february] at last ⊢
    split_ifs at last ⊢ <;> omega

theorem last_of_month (year : ℤ) {month : ℤ} (range : 0 ≤ month ∧ month < 12) :
    dayOf year (month + 1) 0 = dayOf year month (monthLength year month) := by
  have next := monthStart_succ year range.1 range.2
  rw [dayOf_month range]
  by_cases december : month = 11
  · have carry : (month + 1) / 12 = 1 := by omega
    have rest : (month + 1) % 12 = 0 := by omega
    have whole := monthStart_year year
    have zero : monthStart (IsLeap (year + 1)) 0 = 0 := rfl
    have twelve : (11 : ℤ) + 1 = 12 := rfl
    rw [december, twelve] at next
    rw [dayOf, carry, rest, yearStart_succ, zero, ← whole, december]
    omega
  · rw [dayOf_month ⟨by omega, by omega⟩, next]
    omega

theorem last_exists (year : ℤ) {month : ℤ} (range : 0 ≤ month ∧ month < 12) :
    Date.Exists ⟨year, month, monthLength year month⟩ := by
  have length := monthLength_bounds year month
  have positive : 1 ≤ monthLength year month := by omega
  exact ⟨range, positive, le_refl _⟩

theorem days_apart {date : Date} (given : date.Exists) :
    dayOf date.year date.month date.date =
        dayOf (yearEarlier date).year (yearEarlier date).month (yearEarlier date).date + 365 ∧
      ¬ (IsLeap (date.year - 1) ∧ date.month < 2) ∧
        ¬ (IsLeap date.year ∧ (2 ≤ date.month ∨ date.month = 1 ∧ date.date = 29)) ∨
    dayOf date.year date.month date.date =
        dayOf (yearEarlier date).year (yearEarlier date).month (yearEarlier date).date + 366 ∧
      (IsLeap (date.year - 1) ∧ date.month < 2 ∨ IsLeap date.year ∧
        (2 ≤ date.month ∨ date.month = 1 ∧ date.date = 29)) := by
  have earlier := yearEarlier_exists given
  have start := yearStart_succ (date.year - 1)
  have back : date.year - 1 + 1 = date.year := by omega
  have day := yearEarlier_date given
  rw [back] at start
  rw [dayOf_month given.month, dayOf_month earlier.month, day]
  change yearStart date.year + monthStart (IsLeap date.year) date.month + date.date - 1 =
      yearStart (date.year - 1) + monthStart (IsLeap (date.year - 1)) date.month + _ - 1 + 365 ∧ _ ∨
    yearStart date.year + monthStart (IsLeap date.year) date.month + date.date - 1 =
      yearStart (date.year - 1) + monthStart (IsLeap (date.year - 1)) date.month + _ - 1 + 366 ∧ _
  rw [start, yearLength, monthStart, monthStart, shortage, shortage]
  have last := given.date.2
  rw [monthLength] at last
  by_cases leap : IsLeap date.year
  · have common := leap_apart leap
    simp only [leap, common, decide_true, decide_false, if_true, if_false, Bool.false_eq_true, true_and, false_and,
      not_false_eq_true, false_or] at last ⊢
    split_ifs at last ⊢ <;> omega
  · by_cases before : IsLeap (date.year - 1)
    · simp only [leap, before, decide_true, decide_false, if_true, if_false, Bool.false_eq_true, true_and, false_and,
        not_false_eq_true, or_false, and_true] at last ⊢
      split_ifs at last ⊢ <;> omega
    · simp only [leap, before, decide_false, if_false, Bool.false_eq_true, false_and, not_false_eq_true, or_false,
        and_true, and_false] at last ⊢
      split_ifs at last ⊢ <;> omega

theorem dayOf_bounds {date : Date} (given : date.Exists) :
    yearStart date.year ≤ dayOf date.year date.month date.date ∧
      dayOf date.year date.month date.date < yearStart date.year + yearLength date.year := by
  have first := monthStart_mono (IsLeap date.year) given.month.1
  have zero : monthStart (IsLeap date.year) 0 = 0 := rfl
  have next := monthStart_succ date.year given.month.1 given.month.2
  have last := monthStart_mono (IsLeap date.year) (Int.add_one_le_of_lt given.month.2)
  rw [monthStart_year] at last
  obtain ⟨low, high⟩ := given.date
  rw [dayOf_month given.month]
  omega

theorem leap_day (year : ℤ) : dayOf year 1 29 = yearStart year + 59 := by
  have february : monthStart (IsLeap year) 1 = 31 := by
    rw [monthStart, if_pos (by decide)]
    rfl
  rw [dayOf_month ⟨by decide, by decide⟩, february]
  omega

theorem leap_day_exists {year : ℤ} (leap : IsLeap year) : Date.Exists ⟨year, 1, 29⟩ := by
  have february : (0 : ℤ) ≤ 1 ∧ (1 : ℤ) < 12 := by decide
  have first : (1 : ℤ) ≤ 29 := by decide
  refine ⟨february, first, ?_⟩
  change 29 ≤ monthLength year 1
  rw [monthLength, if_pos rfl, if_pos leap]

theorem leap_between {date : Date} (given : date.Exists) :
    (∃ day, (dateOf day).month = 1 ∧ (dateOf day).date = 29 ∧
        dayOf (yearEarlier date).year (yearEarlier date).month (yearEarlier date).date < day ∧
        day ≤ dayOf date.year date.month date.date) ↔
      IsLeap (date.year - 1) ∧ date.month < 2 ∨ IsLeap date.year ∧
        (2 ≤ date.month ∨ date.month = 1 ∧ date.date = 29) := by
  have earlier := yearEarlier_exists given
  have here := dayOf_bounds given
  have there := dayOf_bounds earlier
  have start := yearStart_succ (date.year - 1)
  have back : date.year - 1 + 1 = date.year := by omega
  have yearBefore : (yearEarlier date).year = date.year - 1 := rfl
  have monthBefore : (yearEarlier date).month = date.month := rfl
  have dateBefore := yearEarlier_date given
  have day := @dayOf_month date.year date.month given.month date.date
  have dayBefore := @dayOf_month (yearEarlier date).year (yearEarlier date).month earlier.month
    (yearEarlier date).date
  rw [back] at start
  rw [yearBefore] at there dayBefore ⊢
  rw [monthBefore] at there dayBefore ⊢
  constructor
  · intro found
    obtain ⟨leapDay, month, twentyNinth, after, until'⟩ := found
    obtain ⟨exists', whole⟩ := dateOf_spec leapDay
    generalize (dateOf leapDay) = other at *
    have leap : IsLeap other.year := by
      have last := exists'.date.2
      rw [twentyNinth, month, monthLength, if_pos rfl] at last
      by_contra common
      rw [if_neg common] at last
      omega
    rw [month, twentyNinth, leap_day] at whole
    have next := yearStart_succ date.year
    have ends := yearStart_succ other.year
    rw [yearLength, if_pos leap] at ends
    have years : other.year = date.year - 1 ∨ other.year = date.year := by
      by_contra apart
      rw [not_or] at apart
      rcases lt_trichotomy other.year date.year with before | same | later
      · have bound := yearStart_mono (show other.year + 1 ≤ date.year - 1 by omega)
        omega
      · exact apart.2 same
      · have bound := yearStart_mono (Int.add_one_le_of_lt later)
        omega
    cases years with
    | inl before =>
        left
        rw [before] at leap whole
        refine ⟨leap, ?_⟩
        by_contra late
        rw [monthStart] at dayBefore
        simp only [leap, decide_true, shortage, if_true, late, if_false] at dayBefore
        have positive := earlier.date.1
        omega
    | inr same =>
        right
        rw [same] at leap whole
        refine ⟨leap, ?_⟩
        have last := given.date.2
        rw [monthLength] at last
        rw [monthStart] at day
        simp only [leap, decide_true, shortage, if_true] at day last
        split_ifs at day last <;> omega
  · intro leaps
    cases leaps with
    | inl before =>
        obtain ⟨leap, early⟩ := before
        have back' := dateOf_dayOf (leap_day_exists leap)
        have common : ¬ IsLeap date.year := fun other => leap_apart other leap
        have last := given.date.2
        refine ⟨dayOf (date.year - 1) 1 29, by rw [back'], by rw [back'], ?_, ?_⟩
        · have january : 0 ≤ date.month := given.month.1
          rw [monthLength] at last
          rw [leap_day, dayBefore, dateBefore, monthStart, if_pos early]
          simp only [common, if_false] at last
          split_ifs at last ⊢ <;> omega
        · rw [leap_day]
          rw [yearLength, if_pos leap] at start
          omega
    | inr same =>
        obtain ⟨leap, late⟩ := same
        have back' := dateOf_dayOf (leap_day_exists leap)
        refine ⟨dayOf date.year 1 29, by rw [back'], by rw [back'], ?_, ?_⟩
        · rw [leap_day]
          omega
        · rw [leap_day, day, monthStart]
          have first := given.date.1
          simp only [leap, decide_true, shortage, if_true]
          split_ifs <;> omega

end Days

section Cutoff

/-- What an instant and its cutoff have to do with each other. PostgreSQL counts in
microseconds. -/
structure IsCutoff (instant cutoff : ℤ) : Prop where
  year : getUTCFullYear cutoff = getUTCFullYear instant - 1
  month : getUTCMonth cutoff = getUTCMonth instant
  date : getUTCDate cutoff = if getUTCMonth instant = 1 ∧ getUTCDate instant = 29 then 28 else getUTCDate instant
  time : cutoff % msPerDay = instant % msPerDay
  distance : instant - cutoff = 365 * msPerDay ∨ instant - cutoff = 366 * msPerDay
  leap : instant - cutoff = 366 * msPerDay ↔ ∃ day, (dateOf day).month = 1 ∧ (dateOf day).date = 29 ∧
    cutoff / msPerDay < day ∧ day ≤ instant / msPerDay
  postgres : ∀ micros, 0 ≤ micros → micros < 1000 →
    plusMonths (-12) (instant * 1000 + micros) = cutoff * 1000 + micros

def cutoffOf (instant : ℤ) : ℤ :=
  let date := yearEarlier (dateOf (instant / msPerDay))
  dayOf date.year date.month date.date * msPerDay + instant % msPerDay

theorem day_time (day instant : ℤ) :
    (day * msPerDay + instant % msPerDay) / msPerDay = day ∧
      (day * msPerDay + instant % msPerDay) % msPerDay = instant % msPerDay := by
  simp only [msPerDay]
  omega

theorem cutoffOf_day (instant : ℤ) : dateOf (cutoffOf instant / msPerDay) = yearEarlier
    (dateOf (instant / msPerDay)) := by
  have given := yearEarlier_exists (dateOf_spec (instant / msPerDay)).1
  rw [cutoffOf, (day_time _ _).1, dateOf_dayOf given]

theorem same_time {one other : ℤ} (time : other % msPerDay = one % msPerDay) (days : ℤ) :
    one - other = days * msPerDay ↔ one / msPerDay = other / msPerDay + days := by
  simp only [msPerDay] at time ⊢
  omega

/-- Twelve months back is the date a year earlier. -/
theorem plusMonths_year (instant : ℤ) {micros : ℤ} (low : 0 ≤ micros) (high : micros < 1000) :
    plusMonths (-12) (instant * 1000 + micros) = cutoffOf instant * 1000 + micros := by
  have day : (instant * 1000 + micros) / 86400000000 = instant / msPerDay := by
    simp only [msPerDay]
    omega
  have time : (instant * 1000 + micros) % 86400000000 = instant % msPerDay * 1000 + micros := by
    simp only [msPerDay]
    omega
  have range := (dateOf_spec (instant / msPerDay)).1.month
  rw [plusMonths, cutoffOf, day, time]
  generalize dateOf (instant / msPerDay) = date at *
  have year : (date.year * 12 + date.month + -12) / 12 = date.year - 1 := by omega
  have month : (date.year * 12 + date.month + -12) % 12 = date.month := by omega
  simp only [year, month, yearEarlier]
  generalize dayOf (date.year - 1) date.month _ = earlier
  simp only [msPerDay]
  omega

theorem cutoffOf_isCutoff (instant : ℤ) : IsCutoff instant (cutoffOf instant) := by
  have date := cutoffOf_day instant
  obtain ⟨given, whole⟩ := dateOf_spec (instant / msPerDay)
  have apart := days_apart given
  have between := leap_between given
  have day : cutoffOf instant / msPerDay = dayOf (yearEarlier (dateOf (instant / msPerDay))).year
      (yearEarlier (dateOf (instant / msPerDay))).month (yearEarlier (dateOf (instant / msPerDay))).date :=
    (day_time _ _).1
  have time : cutoffOf instant % msPerDay = instant % msPerDay := (day_time _ _).2
  rw [whole, ← day] at apart between
  have distance := same_time time
  refine ⟨?_, ?_, ?_, time, ?_, ?_, fun _ => plusMonths_year instant⟩
  · rw [getUTCFullYear, date]
    rfl
  · rw [getUTCMonth, date]
    rfl
  · rw [getUTCDate, date, yearEarlier_date given]
    rfl
  · rw [distance 365, distance 366]
    exact apart.imp And.left And.left
  · rw [between, distance 366]
    constructor
    · intro long
      cases apart with
      | inl common =>
          have short := common.1
          omega
      | inr leap => exact leap.2
    · intro leaps
      cases apart with
      | inl common => exact absurd leaps (not_or.mpr common.2)
      | inr leap => exact leap.1

end Cutoff

section Instant

theorem lastDay (year : ℤ) (late : 100 ≤ year) {month : ℤ} (range : 0 ≤ month ∧ month < 12)
    (valid : InRange (dayOf year month (monthLength year month) * msPerDay)) :
    (utc year (month + 1) 0 0 0 0 0).map getUTCDate = some (monthLength year month) := by
  have century : ¬ (0 ≤ year ∧ year ≤ 99) := by omega
  have midnight : makeTime 0 0 0 0 = 0 := rfl
  have day : dayOf year month (monthLength year month) * msPerDay / msPerDay = dayOf year month
    (monthLength year month) :=
    Int.mul_ediv_cancel _ (by decide)
  rw [utc]
  simp only [if_neg century, last_of_month year range, midnight, add_zero, if_pos valid, Option.map_some,
    getUTCDate, day]
  rw [dateOf_dayOf (last_exists year range)]

theorem month_inRange {year month instant : ℤ} (late : 100 ≤ year) (range : 0 ≤ month ∧ month < 12)
    (valid : InRange instant)
    (earlier : year < getUTCFullYear instant) : InRange (dayOf year month (monthLength year month) * msPerDay) := by
  have here := dayOf_bounds (dateOf_spec (instant / msPerDay)).1
  rw [(dateOf_spec (instant / msPerDay)).2] at here
  have bounds := dayOf_bounds (last_exists year range)
  have first := yearStart_mono late
  have next := yearStart_mono (Int.add_one_le_of_lt earlier)
  rw [yearStart_succ] at next
  have century : yearStart 100 = -683003 := by decide
  obtain ⟨-, high⟩ := valid
  simp only [getUTCFullYear] at next
  generalize dayOf year month (monthLength year month) = day at *
  simp only [InRange, msPerDay] at *
  omega

theorem cutoffOf_inRange {instant : ℤ} (valid : InRange instant) (late : 101 ≤ getUTCFullYear instant) :
    InRange (cutoffOf instant) := by
  have isCutoff := cutoffOf_isCutoff instant
  have day := dayOf_bounds (dateOf_spec (cutoffOf instant / msPerDay)).1
  rw [(dateOf_spec (cutoffOf instant / msPerDay)).2] at day
  have year := isCutoff.year
  have distance := isCutoff.distance
  rw [getUTCFullYear] at year
  have first := yearStart_mono (show 100 ≤ (dateOf (cutoffOf instant / msPerDay)).year by omega)
  have century : yearStart 100 = -683003 := by decide
  have low := day.1
  obtain ⟨-, high⟩ := valid
  clear isCutoff day year late
  generalize cutoffOf instant = cutoff at *
  simp only [InRange, msPerDay] at *
  omega

/-- The cutoff is the same time of the day a calendar year earlier. -/
theorem year_cutoff (instant : ℤ) (valid : InRange instant) (late : 101 ≤ getUTCFullYear instant) :
    ∃ cutoff, utcCalendarYearCutoff (some instant) = .ok (some cutoff) ∧ InRange cutoff ∧
      IsCutoff instant cutoff := by
  have inRange := cutoffOf_inRange valid late
  refine ⟨cutoffOf instant, ?_, inRange, cutoffOf_isCutoff instant⟩
  have range := (dateOf_spec (instant / msPerDay)).1.month
  have late' : 100 ≤ getUTCFullYear instant - 1 := by omega
  have century : ¬ (0 ≤ getUTCFullYear instant - 1 ∧ getUTCFullYear instant - 1 ≤ 99) := by omega
  have month := month_inRange late' range valid (sub_one_lt _)
  have last := lastDay (getUTCFullYear instant - 1) late' range month
  have time : makeTime (getUTCHours instant) (getUTCMinutes instant) (getUTCSeconds instant)
    (getUTCMilliseconds instant) =
      instant % msPerDay := by
    have whole := (fields_time instant).2
    have split := Int.mul_ediv_add_emod instant msPerDay
    rw [mul_comm] at split
    omega
  have day : (utc (getUTCFullYear instant - 1) (getUTCMonth instant + 1) 0 0 0 0 0).map
      (fun last => min (getUTCDate instant) (getUTCDate last)) =
        some (min (getUTCDate instant) (monthLength (getUTCFullYear instant - 1) (getUTCMonth instant))) := by
    have mapped := congrArg (Option.map (min (getUTCDate instant))) last
    rw [Option.map_map] at mapped
    exact mapped
  simp only [utcCalendarYearCutoff, day, Option.bind_some]
  simp only [utc, if_neg century, time]
  exact congrArg Except.ok (if_pos inRange)

theorem year_cutoff_leap_day : ∃ cutoff, utcCalendarYearCutoff (some 1709210096789) = .ok (some cutoff) ∧
    InRange cutoff ∧
    IsCutoff 1709210096789 cutoff :=
  year_cutoff 1709210096789 (by decide) (by decide)

example : utcCalendarYearCutoff (some 1709210096789) = .ok (some 1677587696789) := by decide

end Instant

end PublicLighting.Operations
