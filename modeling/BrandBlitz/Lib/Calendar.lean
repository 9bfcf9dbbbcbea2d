import Mathlib.Algebra.Order.Ring.Int
import Mathlib.Data.Int.ConditionallyCompleteOrder
import Mathlib.Order.Monotone.Basic
import Mathlib.Order.SuccPred.Archimedean
import Mathlib.Tactic.Common

/-!
# BrandBlitz.Lib.Calendar

**The Gregorian calendar**, for all days before and after: a day is its number from 1970-01-01,
a Thursday.

* A division of the days into periods, one after the other and numbered by the integers, has a
  first day of each period and a period of each day (`Periods`). Days, weeks from Monday to
  Sunday, pairs of weeks, months and years are such divisions.
* A week belongs to the year of its Thursday (`weekYear`) and has its number in that year
  (`weekNumber`).
-/

namespace BrandBlitz.Lib.Calendar

/-! ### Periods -/

/-- The days, divided into periods. -/
structure Periods where
  /-- the first day of a period -/
  start : Int → Int
  /-- the period of a day -/
  of : Int → Int
  start_lt_succ : ∀ n, start n < start (n + 1)
  start_of_le : ∀ d, start (of d) ≤ d
  lt_start_of : ∀ d, d < start (of d + 1)

namespace Periods

variable (P : Periods) {d d' n : Int}

theorem start_strictMono : StrictMono P.start := strictMono_int_of_lt_succ P.start_lt_succ

/-- A day is in the period that it is between the ends of. -/
theorem of_eq_iff : P.of d = n ↔ P.start n ≤ d ∧ d < P.start (n + 1) := by
  constructor
  · intro h
    rw [← h]
    exact ⟨P.start_of_le d, P.lt_start_of d⟩
  · intro h
    have hle := P.start_strictMono.lt_iff_lt.mp (lt_of_le_of_lt (P.start_of_le d) h.2)
    have hge := P.start_strictMono.lt_iff_lt.mp (lt_of_le_of_lt h.1 (P.lt_start_of d))
    omega

@[simp] theorem of_start (n : Int) : P.of (P.start n) = n :=
  P.of_eq_iff.mpr ⟨le_rfl, P.start_lt_succ n⟩

theorem of_mono (h : d ≤ d') : P.of d ≤ P.of d' := by
  have hlt := P.start_strictMono.lt_iff_lt.mp
    (lt_of_le_of_lt ((P.start_of_le d).trans h) (P.lt_start_of d'))
  omega

end Periods

/-! ### Days and weeks -/

def msPerDay : Int := 86400000

/-- The day of a time in milliseconds. -/
def dayOf (t : Int) : Int := t / msPerDay

@[simp] theorem dayOf_midnight (d : Int) : dayOf (d * msPerDay) = d := by
  unfold dayOf msPerDay
  omega

def days : Periods where
  start n := n
  of d := d
  start_lt_succ n := by omega
  start_of_le d := le_rfl
  lt_start_of d := by omega

/-- From Monday to Sunday. -/
def weeks : Periods where
  start n := 7 * n - 3
  of d := (d + 3) / 7
  start_lt_succ n := by omega
  start_of_le d := by omega
  lt_start_of d := by omega

theorem weeks_start_add (n k : Int) : weeks.start (n + k) = weeks.start n + 7 * k := by
  show 7 * (n + k) - 3 = 7 * n - 3 + 7 * k
  omega

/-- Two weeks each, one pair beginning with a given week. -/
def fortnights (first : Int) : Periods where
  start n := 14 * n + 7 * first - 3
  of d := (d + 3 - 7 * first) / 14
  start_lt_succ n := by omega
  start_of_le d := by omega
  lt_start_of d := by omega

/-! ### Years -/

/-- The first day of a year. -/
def yearStart (y : Int) : Int :=
  365 * (y - 1970) + (y - 1969) / 4 - (y - 1901) / 100 + (y - 1601) / 400

def IsLeap (y : Int) : Prop := y % 4 = 0 ∧ (y % 100 ≠ 0 ∨ y % 400 = 0)

instance (y : Int) : Decidable (IsLeap y) := inferInstanceAs (Decidable (_ ∧ _))

/-- The days of February. -/
def februaryDays (y : Int) : Int := if IsLeap y then 29 else 28

theorem februaryDays_eq (y : Int) : februaryDays y = 28 ∨ februaryDays y = 29 := by
  unfold februaryDays
  split <;> simp

theorem yearStart_succ (y : Int) : yearStart (y + 1) = yearStart y + 337 + februaryDays y := by
  have h4 : (y + 1 - 1969) / 4 = (y - 1969) / 4 + if y % 4 = 0 then 1 else 0 := by
    split <;> omega
  have h100 : (y + 1 - 1901) / 100 = (y - 1901) / 100 + if y % 100 = 0 then 1 else 0 := by
    split <;> omega
  have h400 : (y + 1 - 1601) / 400 = (y - 1601) / 400 + if y % 400 = 0 then 1 else 0 := by
    split <;> omega
  unfold yearStart februaryDays IsLeap
  rw [h4, h100, h400]
  split_ifs <;> omega

/-- The year of a day: an estimate by the length of 400 years is off by one at most. -/
def yearOf (d : Int) : Int :=
  let y := 1970 + 400 * d / 146097
  if d < yearStart y then y - 1 else if yearStart (y + 1) ≤ d then y + 1 else y

/-- 400 years have 146097 days. -/
theorem yearStart_bounds (y : Int) :
    146097 * (y - 1970) - 700 ≤ 400 * yearStart y ∧
      400 * yearStart y ≤ 146097 * (y - 1970) + 700 := by
  unfold yearStart
  omega

theorem yearOf_spec (d : Int) : yearStart (yearOf d) ≤ d ∧ d < yearStart (yearOf d + 1) := by
  unfold yearOf
  simp only
  generalize hy : 1970 + 400 * d / 146097 = y
  -- the day is not before the year in front of the estimate, nor after the one behind it
  have hbefore := yearStart_bounds (y - 1)
  have hafter := yearStart_bounds (y + 2)
  have htwo : y + 1 + 1 = y + 2 := by omega
  split
  next hearly =>
    rw [sub_add_cancel]
    omega
  next hearly =>
    split
    next hlate =>
      rw [htwo]
      omega
    next hlate => exact ⟨not_lt.mp hearly, not_le.mp hlate⟩

def years : Periods where
  start := yearStart
  of := yearOf
  start_lt_succ y := by
    have := yearStart_succ y
    have := februaryDays_eq y
    omega
  start_of_le d := (yearOf_spec d).1
  lt_start_of d := (yearOf_spec d).2

/-! ### Months -/

/-- The days of a year before its month `m`; January is month 0. -/
def daysBefore (y m : Int) : Int :=
  (367 * m + 5) / 12 + if m ≤ 1 then 0 else februaryDays y - 30

/-- The first day of a month; the months are numbered on from year to year. -/
def monthStart (n : Int) : Int := yearStart (n / 12) + daysBefore (n / 12) (n % 12)

/-- The month of a day: the first two are stretched to 61 days together. -/
def monthOf (d : Int) : Int :=
  let y := yearOf d
  let day := d - yearStart y
  let stretched := if day < 31 + februaryDays y then day else day + 30 - februaryDays y
  12 * y + (12 * stretched + 6) / 367

example : (List.range 13).map (fun m : Nat => monthStart (12 * 2024 + m) - yearStart 2024) =
    [0, 31, 60, 91, 121, 152, 182, 213, 244, 274, 305, 335, 366] := by decide

theorem monthStart_eq {y m : Int} (h : 0 ≤ m ∧ m < 12) :
    monthStart (12 * y + m) = yearStart y + daysBefore y m := by
  have hy : (12 * y + m) / 12 = y := by omega
  have hm : (12 * y + m) % 12 = m := by omega
  rw [monthStart, hy, hm]

@[simp] theorem monthStart_january (y : Int) : monthStart (12 * y) = yearStart y := by
  have h := monthStart_eq (y := y) (m := 0) (by omega)
  rw [add_zero] at h
  rw [h, daysBefore, if_pos (by omega)]
  omega

/-- Where a month of a year ends. -/
theorem monthStart_next {y m : Int} (h : 0 ≤ m ∧ m < 12) :
    monthStart (12 * y + m + 1) =
      yearStart y + (367 * m + 372) / 12 + if m = 0 then 0 else februaryDays y - 30 := by
  by_cases hlast : m = 11
  · subst hlast
    have hnext : 12 * y + 11 + 1 = 12 * (y + 1) := by omega
    rw [hnext, monthStart_january, yearStart_succ, if_neg (by omega)]
    omega
  · rw [add_assoc, monthStart_eq (by omega), daysBefore]
    have hm : m + 1 ≤ 1 ↔ m = 0 := by omega
    simp only [hm]
    have heq : 367 * (m + 1) + 5 = 367 * m + 372 := by omega
    rw [heq, ← add_assoc]

theorem monthOf_spec (d : Int) : monthStart (monthOf d) ≤ d ∧ d < monthStart (monthOf d + 1) := by
  have hyear := yearOf_spec d
  rw [yearStart_succ] at hyear
  have hfebruary := februaryDays_eq (yearOf d)
  unfold monthOf
  simp only
  generalize yearOf d = y at *
  -- counted in stretched days, the months of all years begin at the same places
  generalize hstretched : (if d - yearStart y < 31 + februaryDays y then d - yearStart y
    else d - yearStart y + 30 - februaryDays y) = stretched
  have hrange : 0 ≤ (12 * stretched + 6) / 367 ∧ (12 * stretched + 6) / 367 < 12 := by
    split at hstretched <;> omega
  rw [monthStart_eq hrange, monthStart_next hrange, daysBefore]
  split at hstretched
  · constructor
    · split_ifs <;> omega
    · split_ifs <;> omega
  · constructor
    · split_ifs <;> omega
    · split_ifs <;> omega

/-- The lengths of the months. -/
theorem monthStart_succ (n : Int) :
    monthStart n + 28 ≤ monthStart (n + 1) ∧ monthStart (n + 1) ≤ monthStart n + 31 := by
  have hfebruary := februaryDays_eq (n / 12)
  have hsplit : n = 12 * (n / 12) + n % 12 := by omega
  have hrange : 0 ≤ n % 12 ∧ n % 12 < 12 := by omega
  have hstart := monthStart_eq (y := n / 12) hrange
  have hnext := monthStart_next (y := n / 12) hrange
  rw [← hsplit] at hstart hnext
  rw [hstart, hnext, daysBefore]
  constructor
  · split_ifs <;> omega
  · split_ifs <;> omega

def months : Periods where
  start := monthStart
  of := monthOf
  start_lt_succ n := by
    have := (monthStart_succ n).1
    omega
  start_of_le d := (monthOf_spec d).1
  lt_start_of d := (monthOf_spec d).2

/-- The year of a day is the year of its month. -/
theorem monthOf_div (d : Int) : monthOf d / 12 = yearOf d := by
  have hmonth := monthOf_spec d
  refine (years.of_eq_iff.mpr ⟨?_, ?_⟩).symm
  · show yearStart (monthOf d / 12) ≤ d
    rw [← monthStart_january]
    exact (months.start_strictMono.monotone (by omega)).trans hmonth.1
  · show d < yearStart (monthOf d / 12 + 1)
    rw [← monthStart_january]
    exact hmonth.2.trans_le (months.start_strictMono.monotone (by omega))

/-! ### The numbers of weeks -/

def thursday (d : Int) : Int := weeks.start (weeks.of d) + 3

/-- The year that the week of a day belongs to. -/
def weekYear (d : Int) : Int := yearOf (thursday d)

/-- The number of the week of a day in that year, from 1 on. -/
def weekNumber (d : Int) : Int := (thursday d - yearStart (weekYear d)) / 7 + 1

def IsMonday (d : Int) : Prop := d % 7 = 4

instance (d : Int) : Decidable (IsMonday d) := inferInstanceAs (Decidable (_ = _))

theorem isMonday_iff {d : Int} : IsMonday d ↔ weeks.start (weeks.of d) = d := by
  show d % 7 = 4 ↔ 7 * ((d + 3) / 7) - 3 = d
  omega

theorem thursday_of_monday {d : Int} (h : IsMonday d) : thursday d = d + 3 := by
  rw [thursday, isMonday_iff.mp h]

theorem weekNumber_range (d : Int) : 1 ≤ weekNumber d ∧ weekNumber d ≤ 53 := by
  have hyear : yearStart (weekYear d) ≤ thursday d ∧
      thursday d < yearStart (weekYear d + 1) := yearOf_spec (thursday d)
  have hsucc := yearStart_succ (weekYear d)
  have hfebruary := februaryDays_eq (weekYear d)
  rw [weekNumber]
  omega

/-- The week of a Monday belongs to the year of the Monday, or begins the next one. -/
theorem weekYear_of_monday {d : Int} (h : IsMonday d) :
    weekYear d = yearOf d ∧ d + 3 < yearStart (yearOf d + 1) ∨
      weekYear d = yearOf d + 1 ∧ yearStart (yearOf d + 1) ≤ d + 3 := by
  have hyear := yearOf_spec d
  have hsucc := yearStart_succ (yearOf d + 1)
  have hfebruary := februaryDays_eq (yearOf d + 1)
  rw [weekYear, thursday_of_monday h]
  rcases lt_or_ge (d + 3) (yearStart (yearOf d + 1)) with hlt | hge
  · exact .inl ⟨years.of_eq_iff.mpr ⟨hyear.1.trans (by omega), hlt⟩, hlt⟩
  · refine .inr ⟨years.of_eq_iff.mpr ⟨hge, ?_⟩, hge⟩
    show d + 3 < yearStart (yearOf d + 1 + 1)
    omega

/-- The number of the week of a Monday, counted in the year of the Monday. -/
theorem weekNumber_of_monday {d y : Int} (h : IsMonday d) (hy : yearOf d = y) :
    weekYear d = y ∧ d + 3 < yearStart (y + 1) ∧ weekNumber d = (d + 3 - yearStart y) / 7 + 1 ∨
      weekYear d = y + 1 ∧ yearStart (y + 1) ≤ d + 3 ∧ weekNumber d = 1 := by
  subst hy
  have hlt := (yearOf_spec d).2
  rw [weekNumber, thursday_of_monday h]
  rcases weekYear_of_monday h with ⟨hyear, hin⟩ | ⟨hyear, hnext⟩
  · exact .inl ⟨hyear, hin, by rw [hyear]⟩
  · refine .inr ⟨hyear, hnext, ?_⟩
    rw [hyear]
    omega

section
variable {d d' : Int}

/-- Of two weeks that begin in one year, the earlier one belongs to the year: there is no Monday
left for another one after the last. -/
theorem earlier_weekNumber (hd : IsMonday d) (hd' : IsMonday d') (hlt : d < d')
    (hyear : yearOf d = yearOf d') :
    weekYear d = yearOf d ∧ weekNumber d = (d + 3 - yearStart (yearOf d)) / 7 + 1 := by
  have hspec' := (yearOf_spec d').2
  have hmonday : d % 7 = 4 := hd
  have hmonday' : d' % 7 = 4 := hd'
  rw [← hyear] at hspec'
  rcases weekNumber_of_monday hd rfl with ⟨hweek, -, hnumber⟩ | ⟨-, hin, -⟩
  · exact ⟨hweek, hnumber⟩
  · omega

/-- Two weeks that begin in one year and have one number are the first of the year and the first
of the next. -/
theorem same_weekNumber_iff (hd : IsMonday d) (hd' : IsMonday d') (hlt : d < d')
    (hyear : yearOf d = yearOf d') : weekNumber d = weekNumber d' ↔ d' = d + 364 := by
  have hspec := yearOf_spec d
  have hspec' := yearOf_spec d'
  have hlength := yearStart_succ (yearOf d)
  have hfebruary := februaryDays_eq (yearOf d)
  have hmonday : d % 7 = 4 := hd
  have hmonday' : d' % 7 = 4 := hd'
  rw [← hyear] at hspec'
  obtain ⟨-, hnumber⟩ := earlier_weekNumber hd hd' hlt hyear
  rcases weekNumber_of_monday hd' hyear.symm with ⟨-, hin', hnumber'⟩ | ⟨-, hin', hnumber'⟩
  · omega
  · omega

/-- Two weeks that begin in one year and have numbers of one pair follow one another; or the
later is the first of the next year, and the other one of the first two. -/
theorem same_weekPair_iff (hd : IsMonday d) (hd' : IsMonday d') (hlt : d < d')
    (hyear : yearOf d = yearOf d') :
    (weekNumber d + 1) / 2 = (weekNumber d' + 1) / 2 ↔
      d' = d + 7 ∧ weekYear d = weekYear d' ∧ weekNumber d % 2 = 1 ∨
        weekYear d' ≠ yearOf d' ∧ (d' = d + 357 ∨ d' = d + 364) := by
  have hspec := yearOf_spec d
  have hspec' := yearOf_spec d'
  have hlength := yearStart_succ (yearOf d)
  have hfebruary := februaryDays_eq (yearOf d)
  have hmonday : d % 7 = 4 := hd
  have hmonday' : d' % 7 = 4 := hd'
  rw [← hyear] at hspec' ⊢
  obtain ⟨hweek, hnumber⟩ := earlier_weekNumber hd hd' hlt hyear
  rcases weekNumber_of_monday hd' hyear.symm with ⟨hweek', hin', hnumber'⟩ |
    ⟨hweek', hin', hnumber'⟩
  · rw [hweek, hweek', hnumber, hnumber']
    omega
  · rw [hweek, hweek', hnumber, hnumber']
    omega

end

end BrandBlitz.Lib.Calendar
