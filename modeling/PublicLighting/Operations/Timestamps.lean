import Mathlib.Tactic.Linarith
import PublicLighting.Foundations.Instants

/-! The timestamps of journals, manifests and evidence. -/

namespace PublicLighting.Operations

open Foundations.Calendar (Date dateOf dayOf monthLength monthLength_bounds)
open Foundations.Instants

/-- A text of JavaScript, as UTF-16 units. -/
abbrev Units := List Nat

def isDigit (unit : Nat) : Bool := 0x30 ≤ unit ∧ unit ≤ 0x39

def AreDigits (text : Units) : Prop := ∀ unit ∈ text, isDigit unit = true

/-- `Number` of a text of digits. -/
def number (digits : Units) : ℤ := digits.foldl (fun (value : ℤ) (unit : Nat) => value * 10 + (unit - 0x30)) 0

def dash : Nat := 0x2D
def letterT : Nat := 0x54
def colon : Nat := 0x3A
def dot : Nat := 0x2E
def letterZ : Nat := 0x5A

structure Groups where
  year : Units
  month : Units
  day : Units
  hour : Units
  minute : Units
  second : Units
  fraction : Option Units
  deriving DecidableEq

/-- `\d{count}`, and what follows it. -/
def digitsGroup (count : Nat) (text : Units) : Option (Units × Units) :=
  if (text.take count).length = count ∧ (text.take count).all isDigit
    then some (text.take count, text.drop count) else none

def literalUnit (expected : Nat) (text : Units) : Option Units :=
  match text with
  | [] => none
  | unit :: rest => if unit = expected then some rest else none

/-- `(?:\.(\d{1,6}))?Z$`, with the group. -/
def fractionGroup (text : Units) : Option (Option Units) :=
  match text with
  | [] => none
  | unit :: rest =>
      let digits := (rest.takeWhile isDigit).take 6
      if unit = dot ∧ digits ≠ [] ∧ rest.drop digits.length = [letterZ] then some (some digits)
      else if unit = letterZ ∧ rest = [] then some none
      else none

/-- `exec` of the regular expression. -/
def execTimestamp (value : Units) : Option Groups := do
  let (year, rest) ← digitsGroup 4 value
  let rest ← literalUnit dash rest
  let (month, rest) ← digitsGroup 2 rest
  let rest ← literalUnit dash rest
  let (day, rest) ← digitsGroup 2 rest
  let rest ← literalUnit letterT rest
  let (hour, rest) ← digitsGroup 2 rest
  let rest ← literalUnit colon rest
  let (minute, rest) ← digitsGroup 2 rest
  let rest ← literalUnit colon rest
  let (second, rest) ← digitsGroup 2 rest
  let fraction ← fractionGroup rest
  return ⟨year, month, day, hour, minute, second, fraction⟩

/-- `(fractionText ?? '').slice(0, 3).padEnd(3, '0')`. -/
def milliseconds (fraction : Option Units) : Units :=
  let text := (fraction.getD []).take 3
  text ++ List.replicate (3 - text.length) 0x30

/-- `isUtcTimestamp`, of a string or of any other value. -/
def isUtcTimestamp {Other : Type} (value : Units ⊕ Other) : Bool :=
  match value with
  | .inr _ => false
  | .inl text =>
      match execTimestamp text with
      | none => false
      | some groups =>
          let year := number groups.year
          let month := number groups.month
          let day := number groups.day
          let hour := number groups.hour
          let minute := number groups.minute
          let second := number groups.second
          let millisecond := number (milliseconds groups.fraction)
          if year < 1970 ∨ month < 1 ∨ 12 < month ∨ day < 1 ∨ 31 < day ∨ 23 < hour ∨ 59 < minute ∨
            59 < second then false
          else
            match utc year (month - 1) day hour minute second millisecond with
            | none => false
            | some date => getUTCFullYear date = year ∧ getUTCMonth date = month - 1 ∧ getUTCDate date = day ∧
                getUTCHours date = hour ∧ getUTCMinutes date = minute ∧ getUTCSeconds date = second ∧
                getUTCMilliseconds date = millisecond

section Format

def Groups.text (groups : Groups) : Units :=
  groups.year ++ dash :: groups.month ++ dash :: groups.day ++ letterT :: groups.hour ++ colon :: groups.minute ++
    colon :: groups.second ++ (match groups.fraction with
      | none => []
      | some digits => dot :: digits) ++ [letterZ]

/-- Digits where they belong, as many as belong there. -/
structure Groups.Shaped (groups : Groups) : Prop where
  year : groups.year.length = 4 ∧ AreDigits groups.year
  month : groups.month.length = 2 ∧ AreDigits groups.month
  day : groups.day.length = 2 ∧ AreDigits groups.day
  hour : groups.hour.length = 2 ∧ AreDigits groups.hour
  minute : groups.minute.length = 2 ∧ AreDigits groups.minute
  second : groups.second.length = 2 ∧ AreDigits groups.second
  fraction : ∀ digits ∈ groups.fraction, 1 ≤ digits.length ∧ digits.length ≤ 6 ∧ AreDigits digits

/-- A date of the calendar from 1970 on and a time of the day. -/
structure Groups.Denotes (groups : Groups) : Prop where
  year : 1970 ≤ number groups.year
  month : 1 ≤ number groups.month ∧ number groups.month ≤ 12
  day : 1 ≤ number groups.day ∧ number groups.day ≤ monthLength (number groups.year) (number groups.month - 1)
  hour : number groups.hour ≤ 23
  minute : number groups.minute ≤ 59
  second : number groups.second ≤ 59

theorem digitsGroup_iff {count : Nat} {text digits rest : Units} : digitsGroup count text = some (digits, rest) ↔
    text = digits ++ rest ∧ digits.length = count ∧ AreDigits digits := by
  rw [digitsGroup]
  constructor
  · intro found
    split at found
    · rename_i shaped
      cases found
      exact ⟨(List.take_append_drop count text).symm, shaped.1, List.all_eq_true.mp shaped.2⟩
    · cases found
  · intro shaped
    obtain ⟨whole, length, digits'⟩ := shaped
    have front : text.take count = digits := by rw [whole, ← length, List.take_left]
    have back : text.drop count = rest := by rw [whole, ← length, List.drop_left]
    rw [front, back, if_pos ⟨length, List.all_eq_true.mpr digits'⟩]

theorem literalUnit_iff {expected : Nat} {text rest : Units} :
    literalUnit expected text = some rest ↔ text = expected :: rest := by
  cases text with
  | nil => simp [literalUnit]
  | cons unit text =>
      rw [literalUnit, List.cons.injEq]
      by_cases same : unit = expected
      · simp [same]
      · simp [same]

theorem fractionGroup_iff {text : Units} {fraction : Option Units} : fractionGroup text = some fraction ↔
    text = (match fraction with
      | none => []
      | some digits => dot :: digits) ++ [letterZ] ∧
      ∀ digits ∈ fraction, 1 ≤ digits.length ∧ digits.length ≤ 6 ∧ AreDigits digits := by
  cases text with
  | nil =>
      apply iff_of_false
      · exact nofun
      · intro shaped
        exact List.append_ne_nil_of_right_ne_nil _ (List.cons_ne_nil _ _) shaped.1.symm
  | cons unit rest =>
      rw [fractionGroup]
      obtain ⟨digits, shape⟩ : ∃ digits, digits = (rest.takeWhile isDigit).take 6 := ⟨_, rfl⟩
      have front : digits <+: rest := by
        rw [shape]
        exact (List.take_prefix _ _).trans (List.takeWhile_prefix _)
      have all : AreDigits digits := by
        intro unit member
        rw [shape] at member
        exact List.all_eq_true.mp List.all_takeWhile unit (List.mem_of_mem_take member)
      have short : digits.length ≤ 6 := by
        rw [shape]
        exact List.length_take_le _ _
      rw [← shape]
      constructor
      · intro found
        split at found
        · rename_i given
          obtain ⟨first, filled, ends⟩ := given
          cases found
          constructor
          · have joined : digits ++ rest.drop digits.length = rest := by
              obtain ⟨tail, same⟩ := front
              rw [← same, List.drop_left]
            rw [first, List.cons_append, ← ends, joined]
          · intro other same
            cases same
            exact ⟨List.length_pos_iff.mpr filled, short, all⟩
        · split at found
          · rename_i ends
            cases found
            rw [ends.1, ends.2]
            exact ⟨rfl, nofun⟩
          · cases found
      · intro shaped
        obtain ⟨whole, bounds⟩ := shaped
        cases fraction with
        | none =>
            rw [List.nil_append, List.cons.injEq] at whole
            have other : ¬ (unit = dot ∧ digits ≠ [] ∧ rest.drop digits.length = [letterZ]) := by
              intro given
              rw [whole.1] at given
              exact absurd given.1 (by decide)
            rw [if_neg other, if_pos whole]
        | some given =>
            obtain ⟨positive, atMost, digits'⟩ := bounds given rfl
            rw [List.cons_append, List.cons.injEq] at whole
            have same : digits = given := by
              rw [shape, whole.2, List.takeWhile_append_of_pos digits', List.takeWhile_cons_of_neg (by decide),
                List.append_nil, List.take_of_length_le atMost]
            have filled : digits ≠ [] := by
              rw [same]
              exact List.length_pos_iff.mp positive
            have ends : rest.drop digits.length = [letterZ] := by
              rw [same, whole.2, List.drop_left]
            rw [if_pos ⟨whole.1, filled, ends⟩, same]

theorem execTimestamp_iff {value : Units} {groups : Groups} :
    execTimestamp value = some groups ↔ value = groups.text ∧ groups.Shaped := by
  constructor
  · intro found
    simp only [execTimestamp, bind, Option.bind_eq_some_iff, Prod.exists, digitsGroup_iff, literalUnit_iff,
      fractionGroup_iff] at found
    obtain ⟨year, _, ⟨rfl, year'⟩, _, rfl, month, _, ⟨rfl, month'⟩, _, rfl, day, _, ⟨rfl, day'⟩, _, rfl, hour, _,
      ⟨rfl, hour'⟩, _, rfl, minute, _, ⟨rfl, minute'⟩, _, rfl, second, _, ⟨rfl, second'⟩, fraction, ⟨rfl, fraction'⟩,
      same⟩ := found
    cases same
    refine ⟨?_, year', month', day', hour', minute', second', fraction'⟩
    simp only [Groups.text, List.append_assoc, List.cons_append]
  · intro shaped
    obtain ⟨whole, year, month, day, hour, minute, second, fraction⟩ := shaped
    simp only [execTimestamp, bind, Option.bind_eq_some_iff, Prod.exists, digitsGroup_iff, literalUnit_iff,
      fractionGroup_iff]
    refine ⟨groups.year, _, ⟨?_, year⟩, _, rfl, groups.month, _, ⟨rfl, month⟩, _, rfl, groups.day, _,
      ⟨rfl, day⟩, _, rfl,
      groups.hour, _, ⟨rfl, hour⟩, _, rfl, groups.minute, _, ⟨rfl, minute⟩, _, rfl, groups.second, _, ⟨rfl, second⟩,
      groups.fraction, ⟨rfl, fraction⟩, rfl⟩
    rw [whole]
    simp only [Groups.text, List.append_assoc, List.cons_append]

end Format

section Numbers

theorem number_from {digits : Units} (all : AreDigits digits) (start : ℤ) (nonneg : 0 ≤ start) :
    0 ≤ digits.foldl (fun (value : ℤ) (unit : Nat) => value * 10 + (unit - 0x30)) start ∧
      digits.foldl (fun (value : ℤ) (unit : Nat) => value * 10 + (unit - 0x30)) start < (start +
        1) * 10 ^ digits.length := by
  induction digits generalizing start with
  | nil => exact ⟨nonneg, by simp⟩
  | cons unit digits ih =>
      have range : 0x30 ≤ unit ∧ unit ≤ 0x39 := of_decide_eq_true (all unit List.mem_cons_self)
      have rest := ih (fun other member => all other (List.mem_cons_of_mem _ member)) (start * 10 + (unit - 0x30))
        (by omega)
      rw [List.foldl_cons, List.length_cons]
      refine ⟨rest.1, rest.2.trans_le ?_⟩
      have power : (0 : ℤ) < 10 ^ digits.length := by positivity
      calc
        (start * 10 + ((unit : ℤ) - 0x30) + 1) * 10 ^ digits.length ≤ (start + 1) * 10 * 10 ^ digits.length :=
          mul_le_mul_of_nonneg_right (by omega) power.le
        _ = (start + 1) * 10 ^ (digits.length + 1) := by rw [pow_succ, mul_assoc, mul_comm 10]

theorem number_bounds {digits : Units} (all : AreDigits digits) : 0 ≤ number digits ∧
    number digits < 10 ^ digits.length := by
  have bounds := number_from all 0 (le_refl 0)
  rw [zero_add, one_mul] at bounds
  exact bounds

theorem milliseconds_bounds {fraction : Option Units} (all : ∀ digits ∈ fraction, AreDigits digits) :
    0 ≤ number (milliseconds fraction) ∧ number (milliseconds fraction) < 1000 := by
  have length : (milliseconds fraction).length = 3 := by
    rw [milliseconds, List.length_append, List.length_replicate]
    have short := List.length_take_le 3 (fraction.getD [])
    omega
  have digits : AreDigits (milliseconds fraction) := by
    intro unit member
    rw [milliseconds, List.mem_append] at member
    cases member with
    | inl given =>
        cases fraction with
        | none => cases given
        | some digits => exact all digits rfl unit (List.mem_of_mem_take given)
    | inr zero =>
        rw [List.eq_of_mem_replicate zero]
        decide
  have bounds := number_bounds digits
  rw [length] at bounds
  exact bounds

theorem inRange_of_year {year month date time : ℤ} (low : 1970 ≤ year) (high : year ≤ 9999)
    (months : 0 ≤ month ∧ month < 12) (dates : 1 ≤ date ∧ date ≤ 31) (times : 0 ≤ time ∧ time < msPerDay) :
    InRange (dayOf year month date * msPerDay + time) := by
  have first := Foundations.Calendar.yearStart_mono low
  have last := Foundations.Calendar.yearStart_mono high
  have epoch : Foundations.Calendar.yearStart 1970 = 0 := by decide
  have final : Foundations.Calendar.yearStart 9999 = 2932532 := by decide
  have start := Foundations.Calendar.monthStart_mono (Foundations.Calendar.IsLeap year) months.1
  have stop := Foundations.Calendar.monthStart_mono (Foundations.Calendar.IsLeap year) months.2.le
  have zero : Foundations.Calendar.monthStart (Foundations.Calendar.IsLeap year) 0 = 0 := rfl
  rw [Foundations.Calendar.monthStart_year] at stop
  have whole : Foundations.Calendar.yearLength year ≤ 366 := by
    rw [Foundations.Calendar.yearLength]
    split <;> decide
  rw [Foundations.Calendar.dayOf_month months, InRange]
  simp only [msPerDay] at *
  omega

end Numbers

section Validator

/-- The check of the rebuilt date is the check that the date exists. -/
theorem rebuilt_iff {year month day hour minute second millisecond : ℤ} (years : 1970 ≤ year ∧ year ≤ 9999)
    (months : 1 ≤ month ∧ month ≤ 12) (days : 1 ≤ day ∧ day ≤ 31) (time : IsTime hour minute second millisecond) :
    (match utc year (month - 1) day hour minute second millisecond with
      | none => false
      | some date => decide (getUTCFullYear date = year ∧ getUTCMonth date = month - 1 ∧ getUTCDate date = day ∧
          getUTCHours date = hour ∧ getUTCMinutes date = minute ∧ getUTCSeconds date = second ∧
          getUTCMilliseconds date = millisecond)) = true ↔ day ≤ monthLength year (month - 1) := by
  have range : 0 ≤ month - 1 ∧ month - 1 < 12 := by omega
  have full : ¬ (0 ≤ year ∧ year ≤ 99) := by omega
  have times : 0 ≤ makeTime hour minute second millisecond ∧ makeTime hour minute second millisecond < msPerDay := by
    obtain ⟨hours, minutes, seconds, milliseconds⟩ := time
    simp only [makeTime, msPerDay]
    omega
  have inRange := inRange_of_year years.1 years.2 range days times
  obtain ⟨dayBack, hourBack, minuteBack, secondBack, millisecondBack⟩ :=
    @time_fields (dayOf year (month - 1) day) hour minute second millisecond time
  have built : utc year (month - 1) day hour minute second millisecond =
      some (dayOf year (month - 1) day * msPerDay + makeTime hour minute second millisecond) := by
    rw [utc, if_neg full]
    exact if_pos inRange
  rw [built]
  simp only [getUTCFullYear, getUTCMonth, getUTCDate, dayBack, hourBack, minuteBack, secondBack,
    millisecondBack, and_true,
    decide_eq_true_eq]
  have date := Foundations.Calendar.exists_iff ⟨year, month - 1, day⟩
  constructor
  · intro fields
    have same : dateOf (dayOf year (month - 1) day) = ⟨year, month - 1, day⟩ := by
      generalize dateOf (dayOf year (month - 1) day) = rebuilt at fields
      cases rebuilt with
      | mk =>
          rw [Date.mk.injEq]
          exact fields
    exact (date.mpr same).date.2
  · intro inside
    have same := date.mp ⟨range, days.1, inside⟩
    rw [same]
    exact ⟨rfl, rfl, rfl⟩

/-- The validator accepts exactly the texts of the format that denote a time from 1970 on. -/
theorem isUtcTimestamp_iff {Other : Type} (value : Units ⊕ Other) :
    isUtcTimestamp value = true ↔ ∃ groups : Groups, value = .inl groups.text ∧ groups.Shaped ∧ groups.Denotes := by
  -- A text of the format is accepted if it denotes a time.
  have shaped (groups : Groups) (shape : groups.Shaped) :
      isUtcTimestamp (.inl groups.text : Units ⊕ Other) = true ↔ groups.Denotes := by
    have year := number_bounds shape.year.2
    have hour := number_bounds shape.hour.2
    have minute := number_bounds shape.minute.2
    have second := number_bounds shape.second.2
    have millisecond := milliseconds_bounds fun digits member => (shape.fraction digits member).2.2
    rw [shape.year.1] at year
    rw [shape.hour.1] at hour
    rw [shape.minute.1] at minute
    rw [shape.second.1] at second
    have length := monthLength_bounds (number groups.year) (number groups.month - 1)
    rw [isUtcTimestamp, execTimestamp_iff.mpr ⟨rfl, shape⟩]
    dsimp only
    split
    · rename_i outside
      apply iff_of_false Bool.false_ne_true
      intro denotes
      have month := denotes.month
      have day := denotes.day
      have late := denotes.year
      have hours := denotes.hour
      have minutes := denotes.minute
      have seconds := denotes.second
      omega
    · rename_i inside
      simp only [not_or, not_lt] at inside
      obtain ⟨late, january, december, first, last, hours, minutes, seconds⟩ := inside
      rw [rebuilt_iff ⟨late, by omega⟩ ⟨january, december⟩ ⟨first, last⟩
        ⟨⟨hour.1, by omega⟩, ⟨minute.1, by omega⟩, ⟨second.1, by omega⟩, millisecond⟩]
      constructor
      · intro day
        exact ⟨late, ⟨january, december⟩, ⟨first, day⟩, hours, minutes, seconds⟩
      · intro denotes
        exact denotes.day.2
  cases value with
  | inr other =>
      apply iff_of_false Bool.false_ne_true
      intro found
      obtain ⟨groups, same, -⟩ := found
      cases same
  | inl text =>
      constructor
      · intro accepted
        cases read : execTimestamp text with
        | none =>
            rw [isUtcTimestamp, read] at accepted
            cases accepted
        | some groups =>
            obtain ⟨same, shape⟩ := execTimestamp_iff.mp read
            rw [same] at accepted
            exact ⟨groups, congrArg Sum.inl same, shape, (shaped groups shape).mp accepted⟩
      · intro found
        obtain ⟨groups, same, shape, denotes⟩ := found
        rw [same]
        exact (shaped groups shape).mpr denotes

end Validator

end PublicLighting.Operations
