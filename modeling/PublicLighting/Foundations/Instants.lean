import PublicLighting.Foundations.Calendar

/-! JavaScript's dates: instants in milliseconds, the calendar of UTC and its texts. -/

namespace PublicLighting.Foundations.Instants

open Calendar (Date dateOf dayOf)

def msPerDay : ℤ := 86400000

def getUTCFullYear (instant : ℤ) : ℤ := (dateOf (instant / msPerDay)).year

def getUTCMonth (instant : ℤ) : ℤ := (dateOf (instant / msPerDay)).month

def getUTCDate (instant : ℤ) : ℤ := (dateOf (instant / msPerDay)).date

def getUTCHours (instant : ℤ) : ℤ := instant / 3600000 % 24

def getUTCMinutes (instant : ℤ) : ℤ := instant / 60000 % 60

def getUTCSeconds (instant : ℤ) : ℤ := instant / 1000 % 60

def getUTCMilliseconds (instant : ℤ) : ℤ := instant % 1000

def makeTime (hour minute second millisecond : ℤ) : ℤ :=
  hour * 3600000 + minute * 60000 + second * 1000 + millisecond

/-- An instant that a `Date` can hold. -/
def InRange (instant : ℤ) : Prop := -8640000000000000 ≤ instant ∧ instant ≤ 8640000000000000

instance (instant : ℤ) : Decidable (InRange instant) := inferInstanceAs (Decidable (_ ∧ _))

/-- `Date.UTC`, or `none` for NaN. The years 0 to 99 are those of the twentieth century. -/
def utc (year month date hour minute second millisecond : ℤ) : Option ℤ :=
  let fullYear := if 0 ≤ year ∧ year ≤ 99 then 1900 + year else year
  let instant := dayOf fullYear month date * msPerDay + makeTime hour minute second millisecond
  if InRange instant then some instant else none

def padded (width : Nat) (number : ℤ) : List Char :=
  let digits := Nat.toDigits 10 number.toNat
  List.replicate (width - digits.length) '0' ++ digits

/-- A year outside 0 to 9999 has a sign and six digits. -/
def yearText (year : ℤ) : List Char :=
  if year < 0 then '-' :: padded 6 (-year) else if 9999 < year then '+' :: padded 6 year else padded 4 year

def toISOString (instant : ℤ) : List Char :=
  yearText (getUTCFullYear instant) ++ '-' :: padded 2 (getUTCMonth instant + 1) ++
    '-' :: padded 2 (getUTCDate instant) ++
    'T' :: padded 2 (getUTCHours instant) ++ ':' :: padded 2 (getUTCMinutes instant) ++
    ':' :: padded 2 (getUTCSeconds instant) ++ '.' :: padded 3 (getUTCMilliseconds instant) ++ ['Z']

example : toISOString 1709210096789 = "2024-02-29T12:34:56.789Z".toList := by decide

section Fields

variable {day hour minute second millisecond : ℤ}

structure IsTime (hour minute second millisecond : ℤ) : Prop where
  hour : 0 ≤ hour ∧ hour < 24
  minute : 0 ≤ minute ∧ minute < 60
  second : 0 ≤ second ∧ second < 60
  millisecond : 0 ≤ millisecond ∧ millisecond < 1000

theorem time_fields (time : IsTime hour minute second millisecond) :
    (day * msPerDay + makeTime hour minute second millisecond) / msPerDay = day ∧
      getUTCHours (day * msPerDay + makeTime hour minute second millisecond) = hour ∧
      getUTCMinutes (day * msPerDay + makeTime hour minute second millisecond) = minute ∧
      getUTCSeconds (day * msPerDay + makeTime hour minute second millisecond) = second ∧
      getUTCMilliseconds (day * msPerDay + makeTime hour minute second millisecond) = millisecond := by
  obtain ⟨hours, minutes, seconds, milliseconds⟩ := time
  simp only [msPerDay, makeTime, getUTCHours, getUTCMinutes, getUTCSeconds, getUTCMilliseconds]
  refine ⟨?_, ?_, ?_, ?_, ?_⟩ <;> omega

theorem fields_time (instant : ℤ) :
    IsTime (getUTCHours instant) (getUTCMinutes instant) (getUTCSeconds instant) (getUTCMilliseconds instant) ∧
      instant / msPerDay * msPerDay + makeTime (getUTCHours instant) (getUTCMinutes instant) (getUTCSeconds instant)
        (getUTCMilliseconds instant) = instant := by
  simp only [msPerDay, makeTime, getUTCHours, getUTCMinutes, getUTCSeconds, getUTCMilliseconds]
  refine ⟨⟨?_, ?_, ?_, ?_⟩, ?_⟩ <;> omega

end Fields

end PublicLighting.Foundations.Instants
