import BrandBlitz.Lib.JsDate
import BrandBlitz.Lib.NumberText
import BrandBlitz.Templates.Spawn
import Mathlib.Data.Rat.Floor

/-!
# BrandBlitz.Templates.Periods

**The periods of a template** (`computeNextPeriodForTemplate` of
`apps/api/src/services/challenge-templates.ts`).

The next period starts with the next day, the next Monday, the Monday after that, or the first of
the next month (`computeNextStartDate_eq`). `Date.UTC` takes the years from 0 to 99 for those of
the twentieth century, and then the period lies far from now.
-/

namespace BrandBlitz.Templates

open BrandBlitz.Lib
open BrandBlitz.Lib.Calendar BrandBlitz.Lib.JsDate BrandBlitz.Lib.NumberText

/-! ### The next period -/

/-- `daysUntilMon`, from a `dayOfWeek`. -/
def daysUntilMon (dayOfWeek : Option Int) : Option Int :=
  dayOfWeek.map fun dayOfWeek => if dayOfWeek = 0 then 1 else 8 - dayOfWeek

def computeNextStartDate (template : ChallengeTemplate) (now : Option Int) : Option Int :=
  let today := dateUTC (getUTCFullYear now) (getUTCMonth now) (getUTCDate now)
  match template.recurrenceRule with
  | .daily => setUTCDate today (plus (getUTCDate today) (some 1))
  | .weekly => setUTCDate today (plus (getUTCDate today) (daysUntilMon (getUTCDay today)))
  | .biweekly =>
    setUTCDate today
      (plus (plus (getUTCDate today) (daysUntilMon (getUTCDay today))) (some 7))
  | .monthly =>
    let next := dateUTC (getUTCFullYear now) (getUTCMonth now) (some 1)
    setUTCMonth next (plus (getUTCMonth next) (some 1))
  | .custom => setUTCDate now (plus (getUTCDate now) (some 1))

def isoWeek (d : Option Int) : Text :=
  let date := dateUTC (getUTCFullYear d) (getUTCMonth d) (getUTCDate d)
  -- `|| 7`: for a Sunday, and for `NaN`
  let dayNum := ((getUTCDay date).filter (· ≠ 0)).getD 7
  let date := setUTCDate date (plus (getUTCDate date) (some (4 - dayNum)))
  let yearStart := dateUTC (getUTCFullYear date) (some 0) (some 1)
  let weekNo := Option.map₂
    (fun date yearStart : Int => ⌈(((date - yearStart : Int) : ℚ) / 86400000 + 1) / 7⌉)
    date yearStart
  padded weekNo

def periodKeyForRule (rule : RecurrenceRule) (date : Option Int) : Text :=
  let year := numberText (getUTCFullYear date)
  let month := padded (plus (getUTCMonth date) (some 1))
  let day := padded (getUTCDate date)
  match rule with
  | .daily => year ++ '-' :: (month ++ '-' :: day)
  | .weekly => year ++ '-' :: 'W' :: isoWeek date
  | .biweekly =>
    let period := (toNumber (isoWeek date)).map fun wk : Int => ⌈(wk : ℚ) / 2⌉
    year ++ '-' :: 'B' :: numberText period
  | .monthly => year ++ '-' :: month
  | .custom =>
    let hh := padded (getUTCHours date)
    let mm := padded (getUTCMinutes date)
    year ++ '-' :: (month ++ '-' :: (day ++ 'T' :: (hh ++ mm)))

/-- A period with its dates, which can be invalid. -/
structure PeriodDates where
  periodKey : Text
  startsAt : Option Int
  endsAt : Option Int
deriving DecidableEq, Repr

def computeNextPeriodForTemplate (template : ChallengeTemplate) (now : Option Int) : PeriodDates :=
  let startsAt := computeNextStartDate template now
  { periodKey := periodKeyForRule template.recurrenceRule startsAt
    startsAt
    endsAt := startsAt.bind fun startsAt =>
      timeClip (startsAt + template.durationHours * 60 * 60 * 1000) }

/-- A template of every week, for the examples. -/
def everyWeek : ChallengeTemplate where
  id := 1
  brandId := 2
  poolAmountStroops := 500000000
  maxPlayers := none
  durationHours := 24
  recurrenceRule := .weekly
  status := .active
  lastSpawnedPeriod := none
  deletedAt := none

/-! ### Where it starts -/

/-- The month that `Date.UTC` makes of the year and the month of `now`. -/
def currentMonth (now : Int) : Int :=
  12 * makeFullYear (yearFromTime now) + monthFromTime now

/-- The day that `Date.UTC` makes of the fields of `now`: its own, except in the years from 0 to
99. -/
def currentDay (now : Int) : Int := monthStart (currentMonth now) + dateFromTime now - 1

/-- The first day of the next period. -/
def nextDay : RecurrenceRule → Int → Int
  | .daily, now => days.start (days.of (currentDay now) + 1)
  | .weekly, now => weeks.start (weeks.of (currentDay now) + 1)
  | .biweekly, now => weeks.start (weeks.of (currentDay now) + 2)
  | .monthly, now => months.start (currentMonth now + 1)
  | .custom, now => dayOf now + 1

/-- The dates reach to the next period; a month that has begun before the first date has no
next one. -/
def HasNext (rule : RecurrenceRule) (now : Int) : Prop :=
  nextDay rule now ≤ maxDay ∧ (rule = .monthly → -maxDay ≤ months.start (currentMonth now))

instance (rule : RecurrenceRule) (now : Int) : Decidable (HasNext rule now) :=
  inferInstanceAs (Decidable (_ ∧ _))

theorem currentMonth_of_year {t : Int} (h : makeFullYear (yearFromTime t) = yearFromTime t) :
    currentMonth t = monthOf (dayOf t) := by
  have hyear := monthOf_div (dayOf t)
  rw [currentMonth, h, yearFromTime, monthFromTime, ← hyear]
  omega

theorem currentDay_of_year {t : Int} (h : makeFullYear (yearFromTime t) = yearFromTime t) :
    currentDay t = dayOf t := by
  rw [currentDay, currentMonth_of_year h, dateFromTime]
  omega

theorem dateFromTime_range (t : Int) : 1 ≤ dateFromTime t ∧ dateFromTime t ≤ 31 := by
  have hspec := monthOf_spec (dayOf t)
  have hlength := monthStart_succ (monthOf (dayOf t))
  rw [dateFromTime]
  omega

/-- The current day is the one of `now`, or one of the twentieth century. -/
theorem currentDay_cases (t : Int) :
    currentDay t = dayOf t ∧ currentMonth t = monthOf (dayOf t) ∧
        ¬(0 ≤ yearOf (dayOf t) ∧ yearOf (dayOf t) ≤ 99) ∨
      yearStart 1900 ≤ months.start (currentMonth t) ∧
        months.start (currentMonth t) ≤ currentDay t ∧ currentDay t < yearStart 2000 := by
  by_cases hyear : 0 ≤ yearFromTime t ∧ yearFromTime t ≤ 99
  · right
    -- a month of the twentieth century, and a day of it or, for a February 29, the one after it
    have hdate := dateFromTime_range t
    have hmonth : 0 ≤ monthFromTime t ∧ monthFromTime t < 12 := by
      unfold monthFromTime
      omega
    have hmake : makeFullYear (yearFromTime t) = 1900 + yearFromTime t := if_pos hyear
    have hfirst : yearStart 1900 ≤ monthStart (currentMonth t) := by
      rw [← monthStart_january]
      apply months.start_strictMono.monotone
      rw [currentMonth, hmake]
      omega
    have hlast : monthStart (currentMonth t) ≤ monthStart (12 * 1999 + 11) := by
      apply months.start_strictMono.monotone
      rw [currentMonth, hmake]
      omega
    have hdecember : monthStart (12 * 1999 + 11) + 31 = yearStart 2000 := by decide
    rw [currentDay]
    exact ⟨hfirst, by show monthStart _ ≤ _; omega, by omega⟩
  · left
    have hmake : makeFullYear (yearFromTime t) = yearFromTime t := if_neg hyear
    exact ⟨currentDay_of_year hmake, currentMonth_of_year hmake, hyear⟩

theorem currentDay_range (now : Instant) :
    -maxDay ≤ currentDay now ∧ currentDay now ≤ maxDay := by
  have hcentury : -maxDay ≤ yearStart 1900 ∧ yearStart 2000 ≤ maxDay := by decide
  have hday : -maxDay ≤ dayOf now ∧ dayOf now ≤ maxDay := by
    have hnow := now.property
    unfold dayOf msPerDay at *
    omega
  rcases currentDay_cases now with ⟨heq, -⟩ | hrange
  · rw [heq]
    exact hday
  · omega

/-- `Date.UTC` of the fields of `now`. -/
theorem dateUTC_current (now : Instant) :
    dateUTC (getUTCFullYear (some now)) (getUTCMonth (some now)) (getUTCDate (some now)) =
      some (currentDay now * msPerDay) := by
  show midnight (currentDay now) = _
  rw [midnight_eq, if_pos (currentDay_range now)]

/-- Some days after the current one. -/
theorem setUTCDate_current (now : Instant) {k d : Int} (hk : 0 ≤ k) (hd : currentDay now + k = d) :
    setUTCDate (some (currentDay now * msPerDay))
        (some (dateFromTime (currentDay now * msPerDay) + k)) =
      if d ≤ maxDay then some (d * msPerDay) else none := by
  have hrange := currentDay_range now
  have hiff : -maxDay ≤ d ∧ d ≤ maxDay ↔ d ≤ maxDay := by omega
  rw [setUTCDate_midnight, hd, midnight_eq]
  simp only [hiff]

theorem daysUntilMon_midnight (d : Int) :
    daysUntilMon (getUTCDay (some (d * msPerDay))) =
      some (weeks.start (weeks.of d + 1) - d) := by
  have hday : weekDay (d * msPerDay) = (d + 4) % 7 := by rw [weekDay, dayOf_midnight]
  simp only [daysUntilMon, getUTCDay, Option.map_some, hday, weeks]
  congr 1
  split <;> omega

theorem hasNext_iff (rule : RecurrenceRule) {now : Int} (h : rule ≠ .monthly) :
    HasNext rule now ↔ nextDay rule now ≤ maxDay := by simp [HasNext, h]

/-- What `computeNextStartDate` computes. -/
theorem computeNextStartDate_eq (template : ChallengeTemplate) (now : Instant)
    (hrule : template.recurrenceRule ≠ .custom) :
    computeNextStartDate template (some now) =
      if HasNext template.recurrenceRule now then
        some (nextDay template.recurrenceRule now * msPerDay)
      else none := by
  have hweek : currentDay now < weeks.start (weeks.of (currentDay now) + 1) := weeks.lt_start_of _
  unfold computeNextStartDate
  generalize template.recurrenceRule = rule at *
  -- `today` is always a date
  simp only [dateUTC_current]
  cases rule with
  | custom => exact absurd rfl hrule
  | daily =>
      simp only [hasNext_iff .daily (by decide)]
      exact setUTCDate_current now (by omega) rfl
  | weekly =>
      simp only [hasNext_iff .weekly (by decide), daysUntilMon_midnight]
      exact setUTCDate_current now (by omega) (add_sub_cancel _ _)
  | biweekly =>
      simp only [hasNext_iff .biweekly (by decide), daysUntilMon_midnight]
      show setUTCDate _ (some (dateFromTime _ + _ + 7)) = _
      rw [add_assoc]
      refine setUTCDate_current now (by omega) ?_
      show _ = 7 * (weeks.of (currentDay now) + 2) - 3
      show _ + (7 * (weeks.of (currentDay now) + 1) - 3 - _ + 7) = _
      omega
  | monthly =>
      -- `next` is invalid if the month began before the first date, and stays so
      have hfirst : dateUTC (getUTCFullYear (some now)) (getUTCMonth (some now)) (some 1) =
          midnight (months.start (currentMonth now)) := by
        show midnight (monthStart (currentMonth now) + 1 - 1) = _
        rw [add_sub_cancel_right]
        rfl
      have hlength := (monthStart_succ (currentMonth now)).1
      have hrange := currentDay_range now
      have hdate := dateFromTime_range now
      have hle : months.start (currentMonth now) ≤ maxDay := by
        show monthStart (currentMonth now) ≤ maxDay
        rw [currentDay] at hrange
        omega
      rw [hfirst, midnight_eq]
      by_cases hge : -maxDay ≤ months.start (currentMonth now)
      · rw [if_pos ⟨hge, hle⟩]
        have hiff : -maxDay ≤ monthStart (currentMonth now + 1) ∧
            monthStart (currentMonth now + 1) ≤ maxDay ↔ HasNext .monthly now := by
          show _ ↔ monthStart (currentMonth now + 1) ≤ maxDay ∧ _
          have hge' : -maxDay ≤ monthStart (currentMonth now) := hge
          constructor
          · intro h
            exact ⟨h.2, fun _ => hge⟩
          · intro h
            exact ⟨by omega, h.1⟩
        have hset := setUTCMonth_midnight (currentMonth now) 1
        rw [midnight_eq] at hset
        simp only [hiff] at hset
        exact hset
      · have hno : ¬HasNext .monthly now := fun h => hge (h.2 rfl)
        rw [if_neg (fun h => hge h.1), if_neg hno]
        rfl

/-- At the same time of the next day. -/
theorem computeNextStartDate_custom (template : ChallengeTemplate) (now : Int)
    (hrule : template.recurrenceRule = .custom) :
    computeNextStartDate template (some now) = timeClip (now + msPerDay) := by
  have hset := setUTCDate_add now 1
  rw [one_mul] at hset
  simp only [computeNextStartDate, hrule]
  exact hset

theorem dayOf_lt_nextDay (rule : RecurrenceRule) {now : Int}
    (hyear : makeFullYear (yearFromTime now) = yearFromTime now) :
    dayOf now < nextDay rule now := by
  cases rule with
  | daily =>
      rw [nextDay, currentDay_of_year hyear]
      exact days.lt_start_of _
  | weekly =>
      rw [nextDay, currentDay_of_year hyear]
      exact weeks.lt_start_of _
  | biweekly =>
      rw [nextDay, currentDay_of_year hyear]
      exact (weeks.lt_start_of _).trans (weeks.start_strictMono (by omega))
  | monthly =>
      rw [nextDay, currentMonth_of_year hyear]
      exact months.lt_start_of _
  | custom => exact Int.lt_succ _

/-- Outside the years from 0 to 99, the next period is to come. -/
theorem now_lt_computeNextStartDate (template : ChallengeTemplate) (now : Instant) {t : Int}
    (hyear : makeFullYear (yearFromTime now) = yearFromTime now)
    (hstart : computeNextStartDate template (some now) = some t) : now < t := by
  by_cases hrule : template.recurrenceRule = .custom
  · rw [computeNextStartDate_custom template now hrule, timeClip_eq_some_iff] at hstart
    unfold msPerDay at hstart
    omega
  · have hlt := dayOf_lt_nextDay template.recurrenceRule hyear
    rw [computeNextStartDate_eq template now hrule] at hstart
    split at hstart
    next hnext =>
      cases hstart
      unfold dayOf msPerDay at *
      omega
    next hnone => cases hstart

end BrandBlitz.Templates
