import BrandBlitz.Lib.Authentic
import BrandBlitz.Templates.Periods

/-!
# BrandBlitz.Templates.PeriodKeys

**The keys of periods** (`periodKeyForRule`).

* A key of a week has the year of its Monday and the number of the week in the year of its
  Thursday. Two weeks that begin in one year have one key if the second is the first week of the
  next year, 364 days later (`sameWeekKey_iff`).
* A key of two weeks has half that number, so the pairs begin anew with each year
  (`samePairKey_iff`).
* A week has no number if the year of its Thursday begins before the first date.
-/

namespace BrandBlitz.Templates

open BrandBlitz.Lib
open BrandBlitz.Lib.Calendar BrandBlitz.Lib.JsDate BrandBlitz.Lib.NumberText

/-! ### The numbers of its week -/

/-- The year that the week of a day belongs to begins before the first date. -/
def Unnumbered (d : Int) : Prop := yearStart (weekYear d) < -maxDay

instance (d : Int) : Decidable (Unnumbered d) := inferInstanceAs (Decidable (_ < _))

/-- The number that `isoWeek` computes. -/
def isoWeekNumber (d : Int) : Option Int := if Unnumbered d then none else some (weekNumber d)

theorem ceil_weeks (date yearStart : Int) :
    ⌈(((date * msPerDay - yearStart * msPerDay : Int) : ℚ) / 86400000 + 1) / 7⌉ =
      (date - yearStart) / 7 + 1 := by
  have hdays : (((date * msPerDay - yearStart * msPerDay : Int) : ℚ) / 86400000 + 1) / 7 =
      ((date - yearStart + 1 : Int) : ℚ) / (7 : Nat) := by
    push_cast [msPerDay]
    ring
  rw [hdays, Rat.ceil_intCast_div_natCast]
  omega

theorem ceil_half (n : Int) : ⌈(n : ℚ) / 2⌉ = (n + 1) / 2 := by
  have htwo : (n : ℚ) / 2 = n / (2 : Nat) := by norm_num
  rw [htwo, Rat.ceil_intCast_div_natCast]
  omega

/-- The week of a day, when `Date.UTC` makes it of the fields of the date. -/
theorem isoWeek_of_day {t d : Int}
    (hday : dateUTC (getUTCFullYear (some t)) (getUTCMonth (some t)) (getUTCDate (some t)) =
      some (d * msPerDay))
    (hthursday : -maxDay ≤ thursday d ∧ thursday d ≤ maxDay)
    (hyear : ¬(0 ≤ weekYear d ∧ weekYear d ≤ 99)) :
    isoWeek (some t) = padded (isoWeekNumber d) := by
  -- `dayNum` is 7 for a Sunday, so the Thursday is the one of the week from Monday on
  have hdayNum : d + (4 - (((getUTCDay (some (d * msPerDay))).filter (· ≠ 0)).getD 7)) =
      thursday d := by
    have hweekDay : weekDay (d * msPerDay) = (d + 4) % 7 := by rw [weekDay, dayOf_midnight]
    show _ = 7 * ((d + 3) / 7) - 3 + 3
    simp only [getUTCDay, Option.map_some, hweekDay, Option.filter_some]
    by_cases hsunday : (d + 4) % 7 = 0
    · simp [hsunday]
      omega
    · simp [hsunday]
      omega
  have hdate : setUTCDate (some (d * msPerDay)) (plus (getUTCDate (some (d * msPerDay)))
      (some (4 - (((getUTCDay (some (d * msPerDay))).filter (· ≠ 0)).getD 7)))) =
        some (thursday d * msPerDay) := by
    show setUTCDate _ (some (dateFromTime _ + _)) = _
    rw [setUTCDate_midnight, hdayNum, midnight_eq, if_pos hthursday]
  have hstart : dateUTC (getUTCFullYear (some (thursday d * msPerDay))) (some 0) (some 1) =
      midnight (yearStart (weekYear d)) := by
    show midnight (monthStart
      (12 * makeFullYear (yearFromTime (thursday d * msPerDay)) + 0) + 1 - 1) = _
    have hmake : makeFullYear (yearOf (thursday d)) = weekYear d := if_neg hyear
    rw [yearFromTime_midnight, hmake, add_zero, monthStart_january, add_sub_cancel_right]
  have hle : yearStart (weekYear d) ≤ maxDay := (yearOf_spec (thursday d)).1.trans hthursday.2
  unfold isoWeek
  simp only [hday, hdate, hstart, midnight_eq]
  unfold isoWeekNumber
  by_cases hnumber : Unnumbered d
  · rw [if_pos hnumber, if_neg fun h => not_le.mpr hnumber h.1, Option.map₂_none_right]
  · rw [if_neg hnumber, if_pos ⟨not_lt.mp hnumber, hle⟩, Option.map₂_some_some, ceil_weeks,
      weekNumber]

/-- The Mondays that a period of a week or two starts on. -/
structure WeekStart (d : Int) : Prop where
  monday : IsMonday d
  range : -maxDay ≤ d ∧ d ≤ maxDay
  /-- In the years from 0 to 99 there are only two, next to the year before. -/
  year : ¬(0 ≤ yearOf d ∧ yearOf d ≤ 99) ∨ d = -719526 ∨ d = -719519

theorem weekStart_of_currentDay (now : Instant) {k : Int} (hk : 1 ≤ k ∧ k ≤ 2)
    (hle : weeks.start (weeks.of (currentDay now) + k) ≤ maxDay) :
    WeekStart (weeks.start (weeks.of (currentDay now) + k)) := by
  have hrange := currentDay_range now
  have hlt : currentDay now < weeks.start (weeks.of (currentDay now) + k) :=
    (weeks.lt_start_of _).trans_le (weeks.start_strictMono.monotone (by omega))
  have hcentury : yearStart 100 ≤ yearStart 1900 := by decide
  have hzero : yearStart 0 = -719528 := by decide
  have hstart : weeks.start (weeks.of (currentDay now) + k) =
      7 * ((currentDay now + 3) / 7 + k) - 3 := rfl
  have hmonday : IsMonday (weeks.start (weeks.of (currentDay now) + k)) := by
    rw [isMonday_iff, weeks.of_start]
  generalize weeks.start (weeks.of (currentDay now) + k) = d at *
  refine ⟨hmonday, by omega, ?_⟩
  by_cases hyear : 0 ≤ yearOf d ∧ yearOf d ≤ 99
  · right
    -- the current day lies in no such year, so it is one of the last days before them
    have hspec := yearOf_spec d
    have hin : yearStart 0 ≤ d ∧ d < yearStart 100 :=
      ⟨(years.start_strictMono.monotone hyear.1).trans hspec.1,
        hspec.2.trans_le (years.start_strictMono.monotone (show yearOf d + 1 ≤ 100 by omega))⟩
    have hbefore : currentDay now < yearStart 0 := by
      rcases currentDay_cases now with ⟨heq, -, hyear'⟩ | hafter
      · by_contra hge
        have hfirst := years.of_mono (not_lt.mp hge)
        have hlast := years.of_mono hlt.le
        have hzeroth : years.of (yearStart 0) = 0 := years.of_start 0
        rw [heq] at hfirst hlast
        exact hyear' ⟨hzeroth ▸ hfirst, hlast.trans hyear.2⟩
      · omega
    unfold IsMonday at hmonday
    omega
  · exact .inl hyear

/-- The week of a start. -/
theorem isoWeek_weekStart {d : Int} (h : WeekStart d) :
    isoWeek (some (d * msPerDay)) = padded (isoWeekNumber d) := by
  have hmonday : d % 7 = 4 := h.monday
  have hthursday := thursday_of_monday h.monday
  have hrange := h.range
  rcases h.year with hyear | rfl | rfl
  · have hmake : makeFullYear (yearFromTime (d * msPerDay)) = yearFromTime (d * msPerDay) := by
      rw [yearFromTime_midnight]
      exact if_neg hyear
    refine isoWeek_of_day ?_ ?_ ?_
    · show midnight (currentDay (d * msPerDay)) = _
      rw [currentDay_of_year hmake, dayOf_midnight, midnight_eq, if_pos hrange]
    · rw [hthursday]
      unfold maxDay at *
      omega
    · have hzero : yearStart 0 = -719528 := by decide
      have hspec := yearOf_spec d
      intro hweek
      rcases weekYear_of_monday h.monday with ⟨heq, -⟩ | ⟨heq, hle⟩
      · exact hyear (heq ▸ hweek)
      · have hlast : yearOf d + 1 = 0 := by omega
        rw [hlast] at hspec hle
        omega
  -- `Date.UTC` makes these two days of the year 0 days of 1900, with the same week numbers
  · have hnumber : isoWeekNumber (-719526) = isoWeekNumber (-25565) := by decide
    rw [hnumber]
    exact isoWeek_of_day (by decide) (by decide) (by decide)
  · have hnumber : isoWeekNumber (-719519) = isoWeekNumber (-25558) := by decide
    rw [hnumber]
    exact isoWeek_of_day (by decide) (by decide) (by decide)

/-! ### Equal keys -/

/-- The year is what precedes the last dash. -/
theorem dash_inj {year year' : Option Int} {rest rest' : Text} (h : '-' ∉ rest)
    (h' : '-' ∉ rest') :
    numberText year ++ '-' :: rest = numberText year' ++ '-' :: rest' ↔
      year = year' ∧ rest = rest' := by
  constructor
  · intro heq
    have hparts := Authentic.append_cons_inj_of_last h h' heq
    exact ⟨numberText_injective hparts.1, hparts.2⟩
  · rintro ⟨rfl, rfl⟩
    rfl

theorem no_dash_numberText {n : Option Int} (hn : ∀ k ∈ n, 0 ≤ k) : '-' ∉ numberText n :=
  fun h => absurd (mem_numberText hn h) (by decide)

theorem no_dash_padded {n : Option Int} (hn : ∀ k ∈ n, 0 ≤ k) : '-' ∉ padded n :=
  fun h => absurd (mem_padded hn h) (by decide)

section
variable {s s' : Option Int}

theorem getUTCFullYear_midnight (s : Option Int) :
    getUTCFullYear (s.map (· * msPerDay)) = s.map yearOf := by
  cases s <;> simp [getUTCFullYear]

theorem getUTCMonth_midnight (s : Option Int) :
    plus (getUTCMonth (s.map (· * msPerDay))) (some 1) = s.map (monthOf · % 12 + 1) := by
  cases s <;> simp [getUTCMonth, monthFromTime, plus]

theorem getUTCDate_midnight (s : Option Int) :
    getUTCDate (s.map (· * msPerDay)) = s.map fun d => d - monthStart (monthOf d) + 1 := by
  cases s <;> simp [getUTCDate, dateFromTime]

theorem isoWeek_starts (hs : ∀ d ∈ s, WeekStart d) :
    isoWeek (s.map (· * msPerDay)) = padded (s.bind isoWeekNumber) := by
  cases s with
  | none => rfl
  | some d => exact isoWeek_weekStart (hs d rfl)

theorem isoWeekNumber_nonneg (s : Option Int) : ∀ k ∈ s.bind isoWeekNumber, 0 ≤ k := by
  intro k hk
  obtain ⟨d, -, hd⟩ := Option.bind_eq_some_iff.mp hk
  unfold isoWeekNumber at hd
  split at hd
  · cases hd
  · cases hd
    have := weekNumber_range d
    omega

theorem month_nonneg (s : Option Int) : ∀ k ∈ s.map (monthOf · % 12 + 1), 0 ≤ k := by
  intro k hk
  obtain ⟨d, -, rfl⟩ := Option.map_eq_some_iff.mp hk
  omega

theorem date_nonneg (s : Option Int) :
    ∀ k ∈ s.map fun d => d - monthStart (monthOf d) + 1, 0 ≤ k := by
  intro k hk
  obtain ⟨d, -, rfl⟩ := Option.map_eq_some_iff.mp hk
  have := monthOf_spec d
  omega

theorem monthly_key_iff :
    periodKeyForRule .monthly (s.map (· * msPerDay)) =
      periodKeyForRule .monthly (s'.map (· * msPerDay)) ↔ s.map monthOf = s'.map monthOf := by
  simp only [periodKeyForRule, getUTCFullYear_midnight, getUTCMonth_midnight]
  rw [dash_inj (no_dash_padded (month_nonneg s)) (no_dash_padded (month_nonneg s')),
    padded_inj (month_nonneg s) (month_nonneg s')]
  match s, s' with
  | none, none => simp
  | none, some d' => simp
  | some d, none => simp
  | some d, some d' =>
      have := monthOf_div d
      have := monthOf_div d'
      simp only [Option.map_some, Option.some.injEq]
      omega

/-- The key of a day is the key of its month with the date. -/
theorem daily_key_iff :
    periodKeyForRule .daily (s.map (· * msPerDay)) =
      periodKeyForRule .daily (s'.map (· * msPerDay)) ↔ s = s' := by
  have hkey (s : Option Int) : periodKeyForRule .daily (s.map (· * msPerDay)) =
      periodKeyForRule .monthly (s.map (· * msPerDay)) ++
        '-' :: padded (s.map fun d => d - monthStart (monthOf d) + 1) := by
    rw [← getUTCDate_midnight]
    simp [periodKeyForRule]
  constructor
  · intro h
    rw [hkey, hkey] at h
    have hparts := Authentic.append_cons_inj_of_last (no_dash_padded (date_nonneg s))
      (no_dash_padded (date_nonneg s')) h
    have hmonth := monthly_key_iff.mp hparts.1
    have hdate := (padded_inj (date_nonneg s) (date_nonneg s')).mp hparts.2
    match s, s' with
    | none, none => rfl
    | none, some d' => simp at hmonth
    | some d, none => simp at hmonth
    | some d, some d' =>
        simp only [Option.map_some, Option.some.injEq] at hmonth hdate ⊢
        rw [hmonth] at hdate
        omega
  · intro h
    rw [h]

theorem weekly_key_iff (hs : ∀ d ∈ s, WeekStart d) (hs' : ∀ d ∈ s', WeekStart d) :
    periodKeyForRule .weekly (s.map (· * msPerDay)) =
        periodKeyForRule .weekly (s'.map (· * msPerDay)) ↔
      s.map yearOf = s'.map yearOf ∧ s.bind isoWeekNumber = s'.bind isoWeekNumber := by
  have hnumber := isoWeekNumber_nonneg s
  have hnumber' := isoWeekNumber_nonneg s'
  simp only [periodKeyForRule, getUTCFullYear_midnight, isoWeek_starts hs, isoWeek_starts hs']
  rw [dash_inj, List.cons_inj_right, padded_inj hnumber hnumber']
  · simpa using no_dash_padded hnumber
  · simpa using no_dash_padded hnumber'

theorem biweekly_key_iff (hs : ∀ d ∈ s, WeekStart d) (hs' : ∀ d ∈ s', WeekStart d) :
    periodKeyForRule .biweekly (s.map (· * msPerDay)) =
        periodKeyForRule .biweekly (s'.map (· * msPerDay)) ↔
      s.map yearOf = s'.map yearOf ∧
        (s.bind isoWeekNumber).map (fun wk => (wk + 1) / 2) =
          (s'.bind isoWeekNumber).map fun wk => (wk + 1) / 2 := by
  have hhalf (s : Option Int) : ∀ k ∈ (s.bind isoWeekNumber).map fun wk => (wk + 1) / 2, 0 ≤ k := by
    intro k hk
    obtain ⟨wk, hwk, rfl⟩ := Option.map_eq_some_iff.mp hk
    have := isoWeekNumber_nonneg s wk hwk
    omega
  simp only [periodKeyForRule, getUTCFullYear_midnight, isoWeek_starts hs, isoWeek_starts hs',
    toNumber_padded (isoWeekNumber_nonneg _), ceil_half]
  rw [dash_inj, List.cons_inj_right, numberText_injective.eq_iff]
  · simpa only [List.mem_cons, not_or] using ⟨by decide, no_dash_numberText (hhalf s)⟩
  · simpa only [List.mem_cons, not_or] using ⟨by decide, no_dash_numberText (hhalf s')⟩

end

/-! ### Weeks of one key -/

/-- Two different weeks have one key: their Mondays, the earlier first, lie in one year, 364 days
apart, or the weeks have no numbers. -/
def SameWeekKey (e l : Int) : Prop :=
  yearOf e = yearOf l ∧ (l = e + 364 ∨ Unnumbered e ∧ Unnumbered l)

/-- Two different weeks have the key of one pair: their Mondays lie in one year, and one follows
the other, in the year that both weeks belong to, and the earlier has an odd number; or the later
is the first week of the next year, and the other one of the first two; or the weeks have no
numbers. -/
def SamePairKey (e l : Int) : Prop :=
  yearOf e = yearOf l ∧
    (l = e + 7 ∧ weekYear e = weekYear l ∧ weekNumber e % 2 = 1 ∨
      weekYear l ≠ yearOf l ∧ (l = e + 357 ∨ l = e + 364) ∨ Unnumbered e ∧ Unnumbered l)

instance (e l : Int) : Decidable (SameWeekKey e l) := inferInstanceAs (Decidable (_ ∧ _))

instance (e l : Int) : Decidable (SamePairKey e l) := inferInstanceAs (Decidable (_ ∧ _))

/-- It is the year of the first date. -/
theorem unnumbered_iff {d : Int} : Unnumbered d ↔ weekYear d < -271820 := by
  have hbefore : yearStart (-271821) < -maxDay := by decide
  have hafter : -maxDay ≤ yearStart (-271820) := by decide
  constructor
  · intro h
    exact years.start_strictMono.lt_iff_lt.mp (h.trans_le hafter)
  · intro h
    exact (years.start_strictMono.monotone (show weekYear d ≤ -271821 by omega)).trans_lt hbefore

section
variable {e l : Int}

theorem weekYear_mono (h : e ≤ l) : weekYear e ≤ weekYear l := by
  have hweek := weeks.start_strictMono.monotone (weeks.of_mono h)
  exact years.of_mono (show thursday e ≤ thursday l by unfold thursday; omega)

/-- Weeks without numbers are not a year apart. -/
theorem lt_of_unnumbered (he : WeekStart e) (hnumber : Unnumbered e) (hyear : yearOf e = yearOf l) :
    l < e + 357 := by
  have hafter : yearStart (-271820) < -maxDay + 357 := by decide
  have hrange := he.range
  have hlast := (yearOf_spec l).2
  have hle : yearOf e ≤ weekYear e := by
    rcases weekYear_of_monday he.monday with ⟨heq, -⟩ | ⟨heq, -⟩ <;> omega
  have hweek := unnumbered_iff.mp hnumber
  have hmono := years.start_strictMono.monotone (show yearOf l + 1 ≤ -271820 by omega)
  have hmono' : yearStart (yearOf l + 1) ≤ yearStart (-271820) := hmono
  omega

theorem sameWeekKey_iff (he : WeekStart e) (hl : WeekStart l) (hlt : e < l) :
    yearOf e = yearOf l ∧ isoWeekNumber e = isoWeekNumber l ↔ SameWeekKey e l := by
  refine and_congr_right fun hyear => ?_
  -- if only one week has a number, the keys differ and the weeks are less than a year apart
  have hsame := same_weekNumber_iff he.monday hl.monday hlt hyear
  unfold isoWeekNumber
  by_cases hnumber : Unnumbered e
  · have hnear := lt_of_unnumbered he hnumber hyear
    rw [if_pos hnumber]
    by_cases hnumber' : Unnumbered l
    · simp [hnumber, hnumber']
    · rw [if_neg hnumber']
      simp only [reduceCtorEq, hnumber', and_false, or_false, false_iff]
      omega
  · have hnumber' : ¬Unnumbered l := by
      rw [unnumbered_iff] at hnumber ⊢
      have := weekYear_mono hlt.le
      omega
    rw [if_neg hnumber, if_neg hnumber', Option.some.injEq, hsame]
    simp [hnumber]

theorem samePairKey_iff (he : WeekStart e) (hl : WeekStart l) (hlt : e < l) :
    yearOf e = yearOf l ∧
        (isoWeekNumber e).map (fun wk => (wk + 1) / 2) =
          (isoWeekNumber l).map (fun wk => (wk + 1) / 2) ↔ SamePairKey e l := by
  refine and_congr_right fun hyear => ?_
  have hsame := same_weekPair_iff he.monday hl.monday hlt hyear
  unfold isoWeekNumber
  by_cases hnumber : Unnumbered e
  · have hnear := lt_of_unnumbered he hnumber hyear
    rw [if_pos hnumber]
    by_cases hnumber' : Unnumbered l
    · simp [hnumber, hnumber']
    · rw [if_neg hnumber']
      have hyears : weekYear e ≠ weekYear l := by
        rw [unnumbered_iff] at hnumber hnumber'
        omega
      simp only [Option.map_none, Option.map_some, reduceCtorEq, hnumber', and_false, or_false,
        hyears, false_and, false_or, false_iff]
      omega
  · have hnumber' : ¬Unnumbered l := by
      rw [unnumbered_iff] at hnumber ⊢
      have := weekYear_mono hlt.le
      omega
    rw [if_neg hnumber, if_neg hnumber', Option.map_some, Option.map_some, Option.some.injEq, hsame]
    simp [hnumber]

end

/-! ### Keys and periods -/

/-- The periods that the keys of a rule stand for. Those of two weeks begin with the week
`first`, and every other one. -/
def RecurrenceRule.periods (first : Int) : RecurrenceRule → Periods
  | .daily | .custom => days
  | .weekly => weeks
  | .biweekly => fortnights first
  | .monthly => months

/-- Two dates fall in one period. An invalid date falls in none. -/
def SamePeriod (periods : Periods) (s s' : Option Int) : Prop :=
  ∃ t ∈ s, ∃ t' ∈ s', periods.of (dayOf t) = periods.of (dayOf t')

/-- The keys of the periods that start on two days are equal just when the periods are. -/
def KeysFitDays (first d d' : Int) : RecurrenceRule → Prop
  | .weekly => d = d' ∨ ¬SameWeekKey (min d d') (max d d')
  | .biweekly =>
    d = d' ∨
      (SamePairKey (min d d') (max d d') ↔
        max d d' = min d d' + 7 ∧ (weeks.of (min d d') - first) % 2 = 0)
  | .daily | .monthly | .custom => True

instance (first d d' : Int) : (rule : RecurrenceRule) → Decidable (KeysFitDays first d d' rule)
  | .weekly => inferInstanceAs (Decidable (_ ∨ _))
  | .biweekly => inferInstanceAs (Decidable (_ ∨ _))
  | .daily | .monthly | .custom => inferInstanceAs (Decidable True)

/-- The keys of the next periods of two instants are equal just when the periods are. Periods
that would start after the last date all have one key. -/
def KeysFit (first now now' : Int) (rule : RecurrenceRule) : Prop :=
  if HasNext rule now ∧ HasNext rule now' then
    KeysFitDays first (nextDay rule now) (nextDay rule now') rule
  else HasNext rule now ∨ HasNext rule now'

instance (first now now' : Int) (rule : RecurrenceRule) : Decidable (KeysFit first now now' rule) :=
  inferInstanceAs (Decidable (if HasNext rule now ∧ HasNext rule now' then
    KeysFitDays first (nextDay rule now) (nextDay rule now') rule
    else HasNext rule now ∨ HasNext rule now'))

section
variable {first d d' : Int}

theorem samePeriod_midnight {periods : Periods} :
    SamePeriod periods (some (d * msPerDay)) (some (d' * msPerDay)) ↔
      periods.of d = periods.of d' := by
  simp [SamePeriod]

theorem same_week_iff (hd : IsMonday d) (hd' : IsMonday d') :
    weeks.of d = weeks.of d' ↔ d = d' := by
  constructor
  · intro h
    rw [← isMonday_iff.mp hd, h, isMonday_iff.mp hd']
  · intro h
    rw [h]

/-- Two different Mondays of a block of two weeks. -/
theorem same_fortnight_iff (hd : IsMonday d) (hd' : IsMonday d') (hlt : d < d') :
    (fortnights first).of d = (fortnights first).of d' ↔
      d' = d + 7 ∧ (weeks.of d - first) % 2 = 0 := by
  have hmonday : d % 7 = 4 := hd
  have hmonday' : d' % 7 = 4 := hd'
  show (d + 3 - 7 * first) / 14 = (d' + 3 - 7 * first) / 14 ↔
    d' = d + 7 ∧ ((d + 3) / 7 - first) % 2 = 0
  omega

/-- The key of the period that starts on a day. -/
def dayKey (rule : RecurrenceRule) (d : Int) : Text := periodKeyForRule rule (some (d * msPerDay))

theorem weekly_dayKey_iff (hd : WeekStart d) (hd' : WeekStart d') (hlt : d < d') :
    dayKey .weekly d = dayKey .weekly d' ↔ SameWeekKey d d' := by
  rw [← sameWeekKey_iff hd hd' hlt]
  have hkey := @weekly_key_iff (some d) (some d') (by simpa) (by simpa)
  simpa [dayKey] using hkey

theorem biweekly_dayKey_iff (hd : WeekStart d) (hd' : WeekStart d') (hlt : d < d') :
    dayKey .biweekly d = dayKey .biweekly d' ↔ SamePairKey d d' := by
  rw [← samePairKey_iff hd hd' hlt]
  have hkey := @biweekly_key_iff (some d) (some d') (by simpa) (by simpa)
  simpa [dayKey] using hkey

/-- For two days that periods start on. -/
theorem dayKey_fits (rule : RecurrenceRule) (hrule : rule ≠ .custom)
    (hd : rule = .weekly ∨ rule = .biweekly → WeekStart d)
    (hd' : rule = .weekly ∨ rule = .biweekly → WeekStart d') :
    (dayKey rule d = dayKey rule d' ↔ (rule.periods first).of d = (rule.periods first).of d') ↔
      KeysFitDays first d d' rule := by
  cases rule with
  | custom => exact absurd rfl hrule
  | daily =>
      have hkey := @daily_key_iff (some d) (some d')
      simpa [dayKey, KeysFitDays, RecurrenceRule.periods, days] using hkey
  | monthly =>
      have hkey := @monthly_key_iff (some d) (some d')
      simpa [dayKey, KeysFitDays, RecurrenceRule.periods, months] using hkey
  | weekly =>
      have hd := hd (.inl rfl)
      have hd' := hd' (.inl rfl)
      show (_ ↔ weeks.of d = weeks.of d') ↔ _
      rw [same_week_iff hd.monday hd'.monday]
      rcases lt_trichotomy d d' with hlt | rfl | hlt
      · rw [weekly_dayKey_iff hd hd' hlt]
        simp [KeysFitDays, hlt.le, hlt.ne]
      · simp [KeysFitDays]
      · rw [eq_comm, weekly_dayKey_iff hd' hd hlt]
        simp [KeysFitDays, hlt.le, hlt.ne']
  | biweekly =>
      have hd := hd (.inr rfl)
      have hd' := hd' (.inr rfl)
      show (_ ↔ (fortnights first).of d = (fortnights first).of d') ↔ _
      rcases lt_trichotomy d d' with hlt | rfl | hlt
      · rw [biweekly_dayKey_iff hd hd' hlt, same_fortnight_iff hd.monday hd'.monday hlt]
        simp [KeysFitDays, hlt.le, hlt.ne]
      · simp [KeysFitDays]
      · rw [eq_comm, biweekly_dayKey_iff hd' hd hlt,
          @eq_comm _ ((fortnights first).of d), same_fortnight_iff hd'.monday hd.monday hlt]
        simp [KeysFitDays, hlt.le, hlt.ne']

/-- The key of an invalid date is no day's. -/
theorem dayKey_ne_invalid (rule : RecurrenceRule) (hrule : rule ≠ .custom)
    (hd : rule = .weekly ∨ rule = .biweekly → WeekStart d) :
    dayKey rule d ≠ periodKeyForRule rule none := by
  intro h
  cases rule with
  | custom => exact hrule rfl
  | daily => simpa using (@daily_key_iff (some d) none).mp h
  | monthly => simpa using (@monthly_key_iff (some d) none).mp h
  | weekly => simpa using (@weekly_key_iff (some d) none (by simpa using hd) (by simp)).mp h
  | biweekly => simpa using (@biweekly_key_iff (some d) none (by simpa using hd) (by simp)).mp h

end

theorem weekStart_nextDay {rule : RecurrenceRule} {now : Instant} (h : HasNext rule now)
    (hrule : rule = .weekly ∨ rule = .biweekly) : WeekStart (nextDay rule now) := by
  rcases hrule with rfl | rfl
  · exact weekStart_of_currentDay now (by omega) h.1
  · exact weekStart_of_currentDay now (by omega) h.1

/-- **When the keys identify the periods.** -/
theorem periodKey_identifies_iff (template : ChallengeTemplate) (first : Int) (now now' : Instant)
    (hrule : template.recurrenceRule ≠ .custom) :
    ((computeNextPeriodForTemplate template (some now)).periodKey =
          (computeNextPeriodForTemplate template (some now')).periodKey ↔
        SamePeriod (template.recurrenceRule.periods first)
          (computeNextPeriodForTemplate template (some now)).startsAt
          (computeNextPeriodForTemplate template (some now')).startsAt) ↔
      KeysFit first now now' template.recurrenceRule := by
  simp only [computeNextPeriodForTemplate, computeNextStartDate_eq template _ hrule]
  generalize template.recurrenceRule = rule at *
  unfold KeysFit
  by_cases hnext : HasNext rule now
  · by_cases hnext' : HasNext rule now'
    · simp only [hnext, hnext', if_true, and_self, samePeriod_midnight]
      exact dayKey_fits rule hrule (weekStart_nextDay hnext) (weekStart_nextDay hnext')
    · have hkey := dayKey_ne_invalid rule hrule (weekStart_nextDay hnext)
      unfold dayKey at hkey
      simp [hnext, hnext', hkey, SamePeriod]
  · by_cases hnext' : HasNext rule now'
    · have hkey := dayKey_ne_invalid rule hrule (weekStart_nextDay hnext')
      unfold dayKey at hkey
      simp [hnext, hnext', hkey.symm, SamePeriod]
    · simp [hnext, hnext', SamePeriod]

/-- The weeks after 2024-01-03 and after 2024-01-10. -/
theorem weeks_of_january_identified :
    (computeNextPeriodForTemplate everyWeek (some (19725 * msPerDay))).periodKey =
        (computeNextPeriodForTemplate everyWeek (some (19732 * msPerDay))).periodKey ↔
      SamePeriod weeks (computeNextPeriodForTemplate everyWeek (some (19725 * msPerDay))).startsAt
        (computeNextPeriodForTemplate everyWeek (some (19732 * msPerDay))).startsAt :=
  (periodKey_identifies_iff everyWeek 0 ⟨19725 * msPerDay, by decide⟩
    ⟨19732 * msPerDay, by decide⟩ (by decide)).mpr (by decide)

/-- The weeks from 2024-01-01 and from 2024-12-30 have one key. -/
theorem two_weeks_of_2024_share_a_key :
    let next := computeNextPeriodForTemplate everyWeek (some (19718 * msPerDay))
    let next' := computeNextPeriodForTemplate everyWeek (some (20082 * msPerDay))
    next.periodKey = ['2', '0', '2', '4', '-', 'W', '0', '1'] ∧
      ¬(next.periodKey = next'.periodKey ↔ SamePeriod weeks next.startsAt next'.startsAt) := by
  have hstarts : (computeNextPeriodForTemplate everyWeek (some (19718 * msPerDay))).startsAt =
        some (19723 * msPerDay) ∧
      (computeNextPeriodForTemplate everyWeek (some (20082 * msPerDay))).startsAt =
        some (20087 * msPerDay) := by decide
  refine ⟨by decide +kernel, fun h => ?_⟩
  rw [hstarts.1, hstarts.2, samePeriod_midnight] at h
  exact absurd (h.mp (by decide +kernel)) (by decide)

end BrandBlitz.Templates
