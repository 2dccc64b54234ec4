import Mathlib.Data.Int.Notation
import Mathlib.Algebra.Order.Ring.Int
import Mathlib.Tactic.Common

/-! The proleptic Gregorian calendar, with days counted from the first of January 1970 and
months from January as 0. -/

namespace PublicLighting.Foundations.Calendar

section Years

/-- Every fourth year, but of the hundreds only every fourth. -/
def IsLeap (year : ℤ) : Prop := year % 4 = 0 ∧ (year % 100 ≠ 0 ∨ year % 400 = 0)

instance (year : ℤ) : Decidable (IsLeap year) := inferInstanceAs (Decidable (_ ∧ _))

def yearStart (year : ℤ) : ℤ := 365 * (year - 1970) + (year - 1969) / 4 - (year - 1901) / 100 + (year - 1601) / 400

def yearLength (year : ℤ) : ℤ := if IsLeap year then 366 else 365

theorem yearStart_succ (year : ℤ) : yearStart (year + 1) = yearStart year + yearLength year := by
  rw [yearLength, yearStart, yearStart]
  split
  · rename_i leap
    obtain ⟨four, other⟩ := leap
    omega
  · rename_i common
    rw [IsLeap] at common
    omega

/-- The year of a day: an estimate that is off by one year at most. -/
def yearOf (day : ℤ) : ℤ :=
  let guess := 1970 + 400 * day / 146097
  if day < yearStart guess then guess - 1 else if yearStart (guess + 1) ≤ day then guess + 1 else guess

theorem yearOf_spec (day : ℤ) : yearStart (yearOf day) ≤ day ∧ day < yearStart (yearOf day + 1) := by
  rw [yearOf]
  obtain ⟨guess, shape⟩ : ∃ guess, guess = 1970 + 400 * day / 146097 := ⟨_, rfl⟩
  have near : yearStart (guess - 1) ≤ day ∧ day < yearStart (guess + 2) := by
    rw [yearStart, yearStart]
    omega
  have back : guess - 1 + 1 = guess := by omega
  have further : guess + 1 + 1 = guess + 2 := by omega
  rw [← shape]
  split
  · rename_i early
    rw [back]
    exact ⟨near.1, early⟩
  · rename_i late
    split
    · rename_i next
      rw [further]
      exact ⟨next, near.2⟩
    · rename_i here
      exact ⟨not_lt.mp late, not_le.mp here⟩

theorem yearStart_mono {one other : ℤ} (before : one ≤ other) : yearStart one ≤ yearStart other := by
  rw [yearStart, yearStart]
  omega

theorem yearOf_unique {day year : ℤ} (first : yearStart year ≤ day) (last : day < yearStart (year + 1)) :
    yearOf day = year := by
  obtain ⟨begins, ends⟩ := yearOf_spec day
  rcases lt_trichotomy (yearOf day) year with before | same | after
  · have later := yearStart_mono (Int.add_one_le_of_lt before)
    omega
  · exact same
  · have later := yearStart_mono (Int.add_one_le_of_lt after)
    omega

end Years

section Months

/-- The days by which the months from March on come earlier than in a year whose February had 30. -/
def shortage (leap : Bool) : ℤ := if leap then 1 else 2

/-- The first day of a month within its year. The twelfth month stands for the next year. -/
def monthStart (leap : Bool) (month : ℤ) : ℤ := (367 * month + 5) / 12 - if month < 2 then 0 else shortage leap

/-- Thirty days have April, June, September and November. -/
def monthLength (year month : ℤ) : ℤ :=
  if month = 1 then if IsLeap year then 29 else 28
  else if month = 3 ∨ month = 5 ∨ month = 8 ∨ month = 10 then 30
  else 31

theorem monthStart_succ (year : ℤ) {month : ℤ} (low : 0 ≤ month) (high : month < 12) :
    monthStart (IsLeap year) (month + 1) = monthStart (IsLeap year) month + monthLength year month := by
  have cases' : month = 0 ∨ month = 1 ∨ month = 2 ∨ month = 3 ∨ month = 4 ∨ month = 5 ∨ month = 6 ∨ month = 7 ∨
      month = 8 ∨ month = 9 ∨ month = 10 ∨ month = 11 := by omega
  rw [monthStart, monthStart, monthLength]
  by_cases leap : IsLeap year
  · simp only [leap, decide_true, if_true, shortage]
    rcases cases' with same | same | same | same | same | same | same | same | same | same | same | same
    all_goals
      rw [same]
      decide
  · simp only [leap, decide_false, if_false, Bool.false_eq_true, shortage]
    rcases cases' with same | same | same | same | same | same | same | same | same | same | same | same
    all_goals
      rw [same]
      decide

theorem monthLength_bounds (year month : ℤ) : 28 ≤ monthLength year month ∧ monthLength year month ≤ 31 := by
  rw [monthLength]
  split_ifs <;> decide

theorem shortage_bounds (leap : Bool) : 1 ≤ shortage leap ∧ shortage leap ≤ 2 := by
  cases leap with
  | true => decide
  | false => decide

theorem monthStart_mono (leap : Bool) {one other : ℤ} (before : one ≤ other) :
    monthStart leap one ≤ monthStart leap other := by
  have bounds := shortage_bounds leap
  rw [monthStart, monthStart]
  split_ifs <;> omega

theorem monthStart_year (year : ℤ) : monthStart (IsLeap year) 12 = yearLength year := by
  rw [yearLength]
  by_cases leap : IsLeap year
  · simp [monthStart, shortage, leap]
  · simp [monthStart, shortage, leap]

def monthOf (leap : Bool) (dayOfYear : ℤ) : ℤ :=
  (12 * (dayOfYear + if dayOfYear < monthStart leap 2 then 0 else shortage leap) + 6) / 367

theorem monthOf_spec (leap : Bool) {dayOfYear : ℤ} (low : 0 ≤ dayOfYear) (high : dayOfYear < monthStart leap 12) :
    (0 ≤ monthOf leap dayOfYear ∧ monthOf leap dayOfYear < 12) ∧
      monthStart leap (monthOf leap dayOfYear) ≤ dayOfYear ∧
      dayOfYear < monthStart leap (monthOf leap dayOfYear + 1) := by
  have bounds := shortage_bounds leap
  have march : monthStart leap 2 = 61 - shortage leap := rfl
  have december : monthStart leap 12 = 367 - shortage leap := rfl
  rw [december] at high
  rw [monthOf, march]
  by_cases early : dayOfYear < 61 - shortage leap
  · rw [if_pos early, add_zero]
    generalize month : (12 * dayOfYear + 6) / 367 = m
    have small : m < 2 := by omega
    rw [monthStart, monthStart, if_pos small]
    split_ifs <;> omega
  · rw [if_neg early]
    generalize month : (12 * (dayOfYear + shortage leap) + 6) / 367 = m
    have large : 2 ≤ m := by omega
    rw [monthStart, monthStart, if_neg (by omega), if_neg (by omega)]
    omega

theorem monthOf_unique (leap : Bool) {month dayOfYear : ℤ} (range : 0 ≤ month ∧ month < 12)
    (first : monthStart leap month ≤ dayOfYear) (last : dayOfYear < monthStart leap (month + 1)) :
    monthOf leap dayOfYear = month := by
  have low : 0 ≤ dayOfYear := (monthStart_mono leap range.1).trans first
  have high : dayOfYear < monthStart leap 12 := last.trans_le (monthStart_mono leap (by omega))
  obtain ⟨-, begins, ends⟩ := monthOf_spec leap low high
  rcases lt_trichotomy (monthOf leap dayOfYear) month with before | same | after
  · have later := monthStart_mono leap (Int.add_one_le_of_lt before)
    omega
  · exact same
  · have later := monthStart_mono leap (Int.add_one_le_of_lt after)
    omega

end Months

section Dates

structure Date where
  year : ℤ
  month : ℤ
  date : ℤ
  deriving DecidableEq, Repr

def dateOf (day : ℤ) : Date :=
  let year := yearOf day
  let dayOfYear := day - yearStart year
  let month := monthOf (IsLeap year) dayOfYear
  ⟨year, month, dayOfYear - monthStart (IsLeap year) month + 1⟩

/-- The day of a year, month and date. Months beyond the year and dates beyond the month run over. -/
def dayOf (year month date : ℤ) : ℤ :=
  let shifted := year + month / 12
  yearStart shifted + monthStart (IsLeap shifted) (month % 12) + date - 1

structure Date.Exists (date : Date) : Prop where
  month : 0 ≤ date.month ∧ date.month < 12
  date : 1 ≤ date.date ∧ date.date ≤ monthLength date.year date.month

theorem dayOf_month {year month : ℤ} (range : 0 ≤ month ∧ month < 12) (date : ℤ) :
    dayOf year month date = yearStart year + monthStart (IsLeap year) month + date - 1 := by
  have whole : month / 12 = 0 := by omega
  have rest : month % 12 = month := by omega
  rw [dayOf, whole, rest, add_zero]

theorem dateOf_dayOf {date : Date} (given : date.Exists) : dateOf (dayOf date.year date.month date.date) = date := by
  have next := monthStart_succ date.year given.month.1 given.month.2
  have low := monthStart_mono (IsLeap date.year) given.month.1
  have zero : monthStart (IsLeap date.year) 0 = 0 := rfl
  have high := monthStart_mono (IsLeap date.year) (Int.add_one_le_of_lt given.month.2)
  rw [monthStart_year] at high
  obtain ⟨first, last⟩ := given.date
  have ends := yearStart_succ date.year
  rw [dayOf_month given.month]
  have year : yearOf (yearStart date.year + monthStart (IsLeap date.year) date.month + date.date - 1) = date.year :=
    yearOf_unique (by omega) (by omega)
  have inside : yearStart date.year + monthStart (IsLeap date.year) date.month +
    date.date - 1 - yearStart date.year =
      monthStart (IsLeap date.year) date.month + date.date - 1 := by omega
  have month : monthOf (IsLeap date.year) (monthStart (IsLeap date.year) date.month + date.date - 1) = date.month :=
    monthOf_unique _ given.month (by omega) (by omega)
  rw [dateOf]
  simp only [year, inside, month]
  have same : monthStart (IsLeap date.year) date.month +
    date.date - 1 - monthStart (IsLeap date.year) date.month + 1 =
      date.date := by omega
  rw [same]

theorem dateOf_spec (day : ℤ) : (dateOf day).Exists ∧
    dayOf (dateOf day).year (dateOf day).month (dateOf day).date = day := by
  obtain ⟨begins, ends⟩ := yearOf_spec day
  rw [yearStart_succ, ← monthStart_year] at ends
  obtain ⟨range, first, last⟩ := monthOf_spec (IsLeap (yearOf day))
    (show 0 ≤ day - yearStart (yearOf day) by omega) (show day - yearStart (yearOf day) < _ by omega)
  have next := monthStart_succ (yearOf day) range.1 range.2
  constructor
  · refine ⟨range, ?_, ?_⟩
    · change 1 ≤ day - yearStart (yearOf day) - monthStart _ (monthOf _ (day - yearStart (yearOf day))) + 1
      omega
    · change day - yearStart (yearOf day) - monthStart _ (monthOf _ (day - yearStart (yearOf day))) + 1 ≤
        monthLength (yearOf day) (monthOf _ (day - yearStart (yearOf day)))
      omega
  · refine (dayOf_month range _).trans ?_
    change yearStart (yearOf day) + monthStart (IsLeap (yearOf day))
      (monthOf (IsLeap (yearOf day)) (day - yearStart (yearOf day))) +
      (day - yearStart (yearOf day) -
        monthStart (IsLeap (yearOf day)) (monthOf (IsLeap (yearOf day))
          (day - yearStart (yearOf day))) + 1) - 1 = day
    omega

theorem exists_iff (date : Date) : date.Exists ↔ dateOf (dayOf date.year date.month date.date) = date := by
  constructor
  · exact dateOf_dayOf
  · intro same
    rw [← same]
    exact (dateOf_spec _).1

end Dates

end PublicLighting.Foundations.Calendar
