import BrandBlitz.Lib.Calendar
import Mathlib.Data.Option.NAry

/-!
# BrandBlitz.Lib.JsDate

**JavaScript's `Date`**, in UTC. A date is its time value in milliseconds; an invalid one, and a
number that is `NaN`, is `none`. Dates reach a hundred million days from the epoch either way
(`timeClip`). `Date.UTC` takes the years from 0 to 99 for those of the twentieth century; the
setters do not.

A date whose day of the month is set to its own plus some days is that many days later
(`setUTCDate_add`).
-/

namespace BrandBlitz.Lib.JsDate

open BrandBlitz.Lib.Calendar

/-! ### Dates -/

/-- The last day that a date can have. -/
def maxDay : Int := 100000000

/-- A point in time that a date can have. -/
abbrev Instant := { t : Int // -(maxDay * msPerDay) ≤ t ∧ t ≤ maxDay * msPerDay }

def timeClip (t : Int) : Option Int :=
  if -(maxDay * msPerDay) ≤ t ∧ t ≤ maxDay * msPerDay then some t else none

def yearFromTime (t : Int) : Int := yearOf (dayOf t)

/-- From 0 on. -/
def monthFromTime (t : Int) : Int := monthOf (dayOf t) % 12

def dateFromTime (t : Int) : Int := dayOf t - monthStart (monthOf (dayOf t)) + 1

/-- Sunday is 0. -/
def weekDay (t : Int) : Int := (dayOf t + 4) % 7

/-- The day of a year, a month and a day of the month, which may be more than there are. -/
def makeDay (year month date : Int) : Int := monthStart (12 * year + month) + date - 1

def makeFullYear (year : Int) : Int := if 0 ≤ year ∧ year ≤ 99 then 1900 + year else year

/-- `Date.UTC(year, month, date)`. -/
def dateUTC (year month date : Option Int) : Option Int := do
  timeClip (makeDay (makeFullYear (← year)) (← month) (← date) * msPerDay)

def getUTCFullYear (t : Option Int) : Option Int := t.map yearFromTime

def getUTCMonth (t : Option Int) : Option Int := t.map monthFromTime

def getUTCDate (t : Option Int) : Option Int := t.map dateFromTime

def getUTCDay (t : Option Int) : Option Int := t.map weekDay

def getUTCHours (t : Option Int) : Option Int := t.map fun t => t % msPerDay / 3600000

def getUTCMinutes (t : Option Int) : Option Int := t.map fun t => t % 3600000 / 60000

/-- The date after `setUTCDate`. -/
def setUTCDate (t date : Option Int) : Option Int := do
  let t ← t
  timeClip (makeDay (yearFromTime t) (monthFromTime t) (← date) * msPerDay + t % msPerDay)

/-- The date after `setUTCMonth`. -/
def setUTCMonth (t month : Option Int) : Option Int := do
  let t ← t
  timeClip (makeDay (yearFromTime t) (← month) (dateFromTime t) * msPerDay + t % msPerDay)

/-- `a + b`. -/
def plus (a b : Option Int) : Option Int := Option.map₂ (· + ·) a b

/-- The date at the beginning of a day. -/
def midnight (d : Int) : Option Int := timeClip (d * msPerDay)

theorem timeClip_eq_some_iff {t t' : Int} :
    timeClip t = some t' ↔ t = t' ∧ -(maxDay * msPerDay) ≤ t ∧ t ≤ maxDay * msPerDay := by
  unfold timeClip
  split
  next hin => simp [hin]
  next hout => simp [hout]

theorem midnight_eq {d : Int} :
    midnight d = if -maxDay ≤ d ∧ d ≤ maxDay then some (d * msPerDay) else none := by
  unfold midnight timeClip maxDay msPerDay
  congr 1
  apply propext
  omega

@[simp] theorem yearFromTime_midnight (d : Int) : yearFromTime (d * msPerDay) = yearOf d := by
  rw [yearFromTime, dayOf_midnight]

/-- The fields of a day make the day. -/
theorem makeDay_add (d k : Int) :
    makeDay (yearOf d) (monthOf d % 12) (d - monthStart (monthOf d) + 1 + k) = d + k := by
  have hmonth : 12 * yearOf d + monthOf d % 12 = monthOf d := by
    rw [← monthOf_div]
    omega
  rw [makeDay, hmonth]
  omega

/-- Setting the day of the month to a later one. -/
theorem setUTCDate_add (t k : Int) :
    setUTCDate (some t) (some (dateFromTime t + k)) = timeClip (t + k * msPerDay) := by
  have hday := makeDay_add (dayOf t) k
  show timeClip (makeDay (yearOf (dayOf t)) (monthOf (dayOf t) % 12)
    (dayOf t - monthStart (monthOf (dayOf t)) + 1 + k) * msPerDay + t % msPerDay) = _
  rw [hday]
  congr 1
  unfold dayOf msPerDay
  omega

theorem setUTCDate_midnight (d k : Int) :
    setUTCDate (some (d * msPerDay)) (some (dateFromTime (d * msPerDay) + k)) =
      midnight (d + k) := by
  rw [setUTCDate_add, midnight]
  congr 1
  unfold msPerDay
  omega

/-- From the first of a month to the first of another. -/
theorem setUTCMonth_midnight (n k : Int) :
    setUTCMonth (some (monthStart n * msPerDay))
        (some (monthFromTime (monthStart n * msPerDay) + k)) = midnight (monthStart (n + k)) := by
  have hmonth : monthOf (monthStart n) = n := months.of_start n
  have hyear : yearOf (monthStart n) = n / 12 := by rw [← monthOf_div, hmonth]
  show timeClip (makeDay (yearFromTime (monthStart n * msPerDay))
    (monthFromTime (monthStart n * msPerDay) + k) (dateFromTime (monthStart n * msPerDay)) *
      msPerDay + monthStart n * msPerDay % msPerDay) = _
  rw [yearFromTime, monthFromTime, dateFromTime, dayOf_midnight, hmonth, hyear, makeDay, midnight]
  have hnext : 12 * (n / 12) + (n % 12 + k) = n + k := by omega
  rw [hnext]
  congr 1
  unfold msPerDay
  omega

end BrandBlitz.Lib.JsDate
