import BrandBlitz.Lib.IsoDate
import BrandBlitz.Stellar.Client

/-!
# BrandBlitz.Competition.Weeks

**The weeks of the leagues** (`apps/api/src/lib/week.ts`), as texts `YYYY-MM-DD`.

On the texts of days, `addUtcDays` is the addition of day numbers (`addUtcDays_isoDay`) and
`getUtcWeekStart` goes back to the Monday (`getUtcWeekStart_eq`), so that the weeks divide the days
(`weeks_divide_days`). `Date.UTC` takes the years from 0 to 99 for others, and the years after 9999
have more than four digits; the results are about the years between.
-/

namespace BrandBlitz.Competition

open BrandBlitz.Lib.Calendar BrandBlitz.Lib.JsDate BrandBlitz.Lib.IsoDate BrandBlitz.Lib.NumberText

/-! ### The functions -/

/-- `none` is the `RangeError` of an invalid date. -/
def getUtcWeekStart (date : Option Int) : Option Text :=
  let d := dateUTC (getUTCFullYear date) (getUTCMonth date) (getUTCDate date)
  -- Monday is 0
  let diffToMonday := (getUTCDay d).map fun day => (day + 6) % 7
  let d := setUTCDate d (plus (getUTCDate d) (diffToMonday.map Int.neg))
  d.map fun t => (toISOString t).take 10

/-- Of a text whose fields are digits. -/
def addUtcDays (yyyyMmDd : Text) (days : Int) : Option Text :=
  let fields := (yyyyMmDd.splitOn '-').map toNumber
  let field (i : Nat) := fields[i]?.join
  let date := dateUTC (field 0) (plus (field 1) (some (-1))) (field 2)
  let date := setUTCDate date (plus (getUTCDate date) (some days))
  date.map fun t => (toISOString t).take 10

example : getUtcWeekStart (some 1764547199999) = some "2025-11-24".toList := by decide

example : addUtcDays "1900-02-28".toList 1 = some "1900-03-01".toList := by decide

/-! ### Days as texts -/

/-- A day of a year that `Date.UTC` takes as it is, and that has four digits. -/
def FromYear100 (d : Int) : Prop := 100 ≤ yearOf d ∧ yearOf d ≤ 9999

instance (d : Int) : Decidable (FromYear100 d) := inferInstanceAs (Decidable (_ ∧ _))

section
variable {d k : Int}

theorem FromYear100.fourDigits (h : FromYear100 d) : FourDigits (yearOf d) := by
  unfold FromYear100 at h
  exact ⟨by omega, h.2⟩

theorem makeFullYear_of_century {year : Int} (h : 100 ≤ year) : makeFullYear year = year :=
  if_neg (by omega)

/-- `Date.UTC` of the fields of a day. -/
theorem dateUTC_fields (h : FromYear100 d) :
    dateUTC (some (yearOf d)) (some (monthOf d % 12)) (some (d - monthStart (monthOf d) + 1)) =
      some (d * msPerDay) := by
  have hday := makeDay_add d 0
  rw [add_zero, add_zero] at hday
  calc
    _ = midnight (makeDay (makeFullYear (yearOf d)) (monthOf d % 12)
          (d - monthStart (monthOf d) + 1)) := rfl
    _ = midnight d := by rw [makeFullYear_of_century h.1, hday]
    _ = some (d * msPerDay) := midnight_fourDigits h.fourDigits

/-- Some days before or after a day. -/
theorem setUTCDate_days (d k : Int) :
    setUTCDate (some (d * msPerDay)) (plus (getUTCDate (some (d * msPerDay))) (some k)) =
      midnight (d + k) := setUTCDate_midnight d k

theorem take_midnight (h : FourDigits (yearOf d)) :
    (midnight d).map (fun t => (toISOString t).take 10) = some (isoDay d) := by
  rw [midnight_fourDigits h, Option.map_some, take_toISOString (by rwa [dayOf_midnight]),
    dayOf_midnight]

theorem addUtcDays_eq (h : FromYear100 d) (k : Int) :
    addUtcDays (isoDay d) k = (midnight (d + k)).map fun t => (toISOString t).take 10 := by
  have hmonth := month_range d
  have hdate := date_range d
  have hplus : plus (some (monthOf d % 12 + 1)) (some (-1)) = some (monthOf d % 12) := by
    show some (monthOf d % 12 + 1 + -1) = _
    rw [add_neg_cancel_right]
  have hfields : dateUTC (some ((yearOf d).toNat : Int))
      (plus (some ((monthOf d % 12 + 1).toNat : Int)) (some (-1)))
      (some ((d - monthStart (monthOf d) + 1).toNat : Int)) = some (d * msPerDay) := by
    rw [Int.toNat_of_nonneg h.fourDigits.1, Int.toNat_of_nonneg (by omega),
      Int.toNat_of_nonneg (by omega), hplus]
    exact dateUTC_fields h
  unfold addUtcDays
  simp only [splitOn_isoDay h.fourDigits, List.map_cons, toNumber_digits, List.getElem?_cons_zero,
    List.getElem?_cons_succ, Option.join_some, hfields, setUTCDate_days]

/-- **`addUtcDays` adds day numbers.** -/
theorem addUtcDays_isoDay (h : FromYear100 d) (hk : FourDigits (yearOf (d + k))) :
    addUtcDays (isoDay d) k = some (isoDay (d + k)) := by
  rw [addUtcDays_eq h, take_midnight hk]

/-- What `addUtcDays` makes of a day is the date of the sum or no date. -/
theorem eq_add_of_parseDay {text : Text} {d' : Int} (h : FromYear100 d)
    (hadd : addUtcDays (isoDay d) k = some text) (hparse : parseDay text = some d') :
    d' = d + k := by
  rw [addUtcDays_eq h, Option.map_eq_some_iff] at hadd
  obtain ⟨t, ht, rfl⟩ := hadd
  obtain ⟨rfl, -⟩ := timeClip_eq_some_iff.mp ht
  by_cases hfour : FourDigits (yearOf (d + k))
  · rw [take_toISOString (by rwa [dayOf_midnight]), dayOf_midnight, parseDay_isoDay hfour] at hparse
    exact (Option.some.inj hparse).symm
  · rw [parseDay_take_toISOString (by rwa [dayOf_midnight])] at hparse
    cases hparse

end

/-! ### Weeks -/

section
variable {d t : Int}

/-- The Monday of the week of a day. -/
def mondayOf (d : Int) : Int := weeks.start (weeks.of d)

theorem isMonday_mondayOf (d : Int) : IsMonday (mondayOf d) := by
  rw [isMonday_iff, mondayOf, weeks.of_start]

theorem mondayOf_range (d : Int) : mondayOf d ≤ d ∧ d ≤ mondayOf d + 6 := by
  show 7 * ((d + 3) / 7) - 3 ≤ d ∧ d ≤ 7 * ((d + 3) / 7) - 3 + 6
  omega

theorem mondayOf_eq_iff {d' : Int} (h : IsMonday d') :
    mondayOf d = d' ↔ 0 ≤ d - d' ∧ d - d' ≤ 6 := by
  have hmonday : d' % 7 = 4 := h
  show 7 * ((d + 3) / 7) - 3 = d' ↔ _
  omega

theorem mondayOf_eq_sub (d : Int) : mondayOf d = d + -((weekDay (d * msPerDay) + 6) % 7) := by
  rw [weekDay, dayOf_midnight]
  show 7 * ((d + 3) / 7) - 3 = _
  omega

/-- The week of a day begins in the same year or in the one before. -/
theorem yearOf_mondayOf (d : Int) : yearOf d - 1 ≤ yearOf (mondayOf d) ∧
    yearOf (mondayOf d) ≤ yearOf d := by
  have hrange := mondayOf_range d
  have hyear := yearOf_spec d
  have hsucc := yearStart_succ (yearOf d - 1)
  have hfebruary := februaryDays_eq (yearOf d - 1)
  rw [sub_add_cancel] at hsucc
  constructor
  · have hbefore : yearOf (yearStart (yearOf d - 1)) = yearOf d - 1 := years.of_start _
    rw [← hbefore]
    exact years.of_mono (by omega)
  · exact years.of_mono hrange.1

theorem FromYear100.mondayOf_fourDigits (h : FromYear100 d) : FourDigits (yearOf (mondayOf d)) := by
  have hmonday := yearOf_mondayOf d
  unfold FromYear100 at h
  exact ⟨by omega, by omega⟩

/-- **`getUtcWeekStart` is the Monday of the week.** -/
theorem getUtcWeekStart_eq (h : FromYear100 (dayOf t)) :
    getUtcWeekStart (some t) = some (isoDay (mondayOf (dayOf t))) := by
  have hfields : dateUTC (getUTCFullYear (some t)) (getUTCMonth (some t)) (getUTCDate (some t)) =
      some (dayOf t * msPerDay) := dateUTC_fields h
  unfold getUtcWeekStart
  simp only [hfields]
  show (setUTCDate _ (plus _ (some (-((weekDay (dayOf t * msPerDay) + 6) % 7))))).map _ = _
  rw [setUTCDate_days, ← mondayOf_eq_sub, take_midnight h.mondayOf_fourDigits]

end

/-! ### The division of the days -/

/-- The years of the leagues. -/
def InYears (d : Int) : Prop := 1000 ≤ yearOf d ∧ yearOf d ≤ 9999

instance (d : Int) : Decidable (InYears d) := inferInstanceAs (Decidable (_ ∧ _))

theorem InYears.fromYear100 {d : Int} (h : InYears d) : FromYear100 d := by
  unfold InYears at h
  exact ⟨by omega, h.2⟩

theorem InYears.mondayOf_fromYear100 {d : Int} (h : InYears d) : FromYear100 (mondayOf d) := by
  have hmonday := yearOf_mondayOf d
  unfold InYears at h
  exact ⟨by omega, by omega⟩

/-- **The weeks divide the days**: the start of the week of an instant is the Monday at most six
days before; dates are moved by adding the numbers of days; and a week start is that of the seven
days from it on. -/
theorem weeks_divide_days :
    (∀ t, InYears (dayOf t) → ∃ monday, getUtcWeekStart (some t) = some (isoDay monday) ∧
      IsMonday monday ∧ monday ≤ dayOf t ∧ dayOf t ≤ monday + 6) ∧
    (∀ date d, parseDay date = some d → InYears d →
      addUtcDays date 0 = some date ∧
      ∀ a b, InYears (d + a) → InYears (d + a + b) →
        ∃ moved, addUtcDays date a = some moved ∧ parseDay moved = some (d + a) ∧
          addUtcDays moved b = addUtcDays date (a + b)) ∧
    (∀ t w, InYears (dayOf t) → getUtcWeekStart (some t) = some w →
      ∀ k date t', addUtcDays w k = some date → parseDay date = some (dayOf t') →
        InYears (dayOf t') → (getUtcWeekStart (some t') = some w ↔ 0 ≤ k ∧ k ≤ 6)) := by
  refine ⟨?_, ?_, ?_⟩
  · intro t ht
    exact ⟨mondayOf (dayOf t), getUtcWeekStart_eq ht.fromYear100, isMonday_mondayOf _,
      mondayOf_range _⟩
  · intro date d hdate hd
    obtain rfl := isoDay_of_parseDay hdate
    have hd := hd.fromYear100
    constructor
    · have hzero : FourDigits (yearOf (d + 0)) := by
        rw [add_zero]
        exact hd.fourDigits
      rw [addUtcDays_isoDay hd hzero, add_zero]
    · intro a b ha hab
      have ha := ha.fromYear100
      have hab := hab.fromYear100.fourDigits
      refine ⟨isoDay (d + a), addUtcDays_isoDay hd ha.fourDigits, parseDay_isoDay ha.fourDigits, ?_⟩
      rw [addUtcDays_isoDay ha hab, addUtcDays_isoDay hd (by rwa [← add_assoc]), add_assoc]
  · intro t w ht hw k date t' hadd hdate ht'
    rw [getUtcWeekStart_eq ht.fromYear100] at hw
    obtain rfl := Option.some.inj hw
    have hday := eq_add_of_parseDay ht.mondayOf_fromYear100 hadd hdate
    have hmonday := mondayOf_eq_iff (d := dayOf t') (isMonday_mondayOf (dayOf t))
    rw [hday, add_sub_cancel_left, ← hday] at hmonday
    rw [getUtcWeekStart_eq ht'.fromYear100, Option.some_inj, ← hmonday]
    constructor
    · intro htext
      have hread := congrArg parseDay htext
      rw [parseDay_isoDay ht'.fromYear100.mondayOf_fourDigits,
        parseDay_isoDay ht.fromYear100.mondayOf_fourDigits] at hread
      exact Option.some.inj hread
    · intro hsame
      rw [hsame]

/-- The first day of 2026, and the Monday after it. -/
theorem weeks_divide_newYear :
    (∃ monday, getUtcWeekStart (some 1767225600000) = some (isoDay monday) ∧ IsMonday monday ∧
      monday ≤ dayOf 1767225600000 ∧ dayOf 1767225600000 ≤ monday + 6) ∧
    addUtcDays "2024-02-29".toList 0 = some "2024-02-29".toList ∧
    (getUtcWeekStart (some 1767571200000) = some "2025-12-29".toList ↔
      (0 : Int) ≤ 7 ∧ (7 : Int) ≤ 6) :=
  ⟨weeks_divide_days.1 _ (by decide),
    (weeks_divide_days.2.1 _ 19782 (by decide) (by decide)).1,
    weeks_divide_days.2.2 1767225600000 _ (by decide) (by decide) 7 "2026-01-05".toList
      1767571200000 (by decide) (by decide) (by decide)⟩

end BrandBlitz.Competition
