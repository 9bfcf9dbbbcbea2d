import BrandBlitz.Lib.IsoDate
import BrandBlitz.Competition.Tables

/-!
# BrandBlitz.Competition.Streaks

**Streaks count consecutive days** (`apps/api/src/services/streaks.ts`, and the statements
`getUserStreak` and `setUserStreak` in `apps/api/src/db/queries/users.ts`).

A day is compared and stored as a text, the first ten characters of `toISOString`. For the years
from 1 to 9999 that is a date, and the calls count days (`playedOn`). Of a later year it is the
sign, the year and the month; that, and the year 0, the database does not take for a date.
-/

namespace BrandBlitz.Competition

open BrandBlitz.Lib.Calendar BrandBlitz.Lib.JsDate BrandBlitz.Lib.IsoDate BrandBlitz.Stellar
open BrandBlitz.Paging (Uuid)

/-! ### Rows -/

/-- What `StreakState` has of a row of `users`. -/
structure StreakRow where
  streak : Nat
  /-- the day, counted from the epoch -/
  lastPlayDay : Option Int
  streakRepairsThisMonth : Nat
  streakRepairAvailable : Bool
  deleted : Bool
deriving DecidableEq, Repr

abbrev StreakRows := Uuid → Option StreakRow

inductive StreakError where
  | userNotFound
  | invalidDate (text : Text)
  | dispatchFailed
  /-- `ReferenceError`: `logger` is not imported. -/
  | loggerNotDefined
deriving DecidableEq, Repr

/-- `text::date`, of the texts that dates begin with. -/
def castDate (text : Text) : Option Int := (parseDay text).filter fun d => 1 ≤ yearOf d

def StreakRows.getUserStreak (users : StreakRows) (userId : Uuid) : Option StreakRow :=
  (users userId).filter fun row => !row.deleted

/-- The updated row, if there is one. -/
def StreakRows.setUserStreak (users : StreakRows) (userId : Uuid) (streak : Nat)
    (lastPlayDay : Text) (repairAvailable : Bool) :
    Except StreakError (Option StreakRow) × StreakRows :=
  match castDate lastPlayDay with
  | none => (.error (.invalidDate lastPlayDay), users)
  | some day =>
    let updated := (users userId).map fun row =>
      { row with
        streak := streak
        lastPlayDay := some day
        streakRepairAvailable := repairAvailable }
    (.ok updated, Function.update users userId updated)

/-! ### Days -/

def NOTIFICATION_MILESTONES : List Nat := [7, 30, 100]

def toUtcDay (date : Int) : Text := (toISOString date).take 10

/-- The value of the column, a time of the stored day. -/
def normalizeDay (value : Option Int) : Option Text := value.map fun t => (toISOString t).take 10

/-- `Math.round` of the difference in days, `none` if it is `NaN`. -/
def dayDiff (fromDay toDay : Text) : Option Int := do
  let fromMs ← dateParse fromDay
  let toMs ← dateParse toDay
  return (2 * (toMs - fromMs) + msPerDay) / (2 * msPerDay)

/-- Where the notification is not wanted, and where it would be inserted, an undefined name is used,
and so it is again where that is caught. -/
def insertStreakMilestoneNotification (dispatchNotification : Uuid → Nat → Bool) (userId : Uuid)
    (milestone : Nat) : StreakError :=
  if dispatchNotification userId milestone then .loggerNotDefined else .dispatchFailed

section

variable (readBack : Int → Int) (dispatchNotification : Uuid → Nat → Bool)

/-- `readBack` is the time that a stored day is read back as, `dispatchNotification` whether the
notification is dispatched. -/
def updateStreak (users : StreakRows) (userId : Uuid) (now : Instant) :
    Except StreakError (Option StreakRow) × StreakRows :=
  match users.getUserStreak userId with
  | none => (.error .userNotFound, users)
  | some current =>
    let today := toUtcDay now
    let lastPlayDay := normalizeDay (current.lastPlayDay.map readBack)
    if lastPlayDay = some today then (.ok (some current), users)
    else
      let newStreak :=
        if lastPlayDay.any fun day => dayDiff day today = some 1 then current.streak + 1 else 1
      match users.setUserStreak userId newStreak today (3 ≤ newStreak) with
      | (.error e, users) => (.error e, users)
      | (.ok updated, users) =>
        if newStreak ∈ NOTIFICATION_MILESTONES then
          (.error (insertStreakMilestoneNotification dispatchNotification userId newStreak), users)
        else (.ok updated, users)

/-- The rows after calls for a user, one after the other. -/
def updateStreaks (userId : Uuid) (users : StreakRows) (calls : List Instant) : StreakRows :=
  calls.foldl (fun users now => (updateStreak readBack dispatchNotification users userId now).2)
    users

theorem updateStreaks_concat (userId : Uuid) (users : StreakRows) (calls : List Instant)
    (now : Instant) :
    updateStreaks readBack dispatchNotification userId users (calls ++ [now]) =
      (updateStreak readBack dispatchNotification
        (updateStreaks readBack dispatchNotification userId users calls) userId now).2 :=
  List.foldl_concat ..

end

/-! ### One call -/

/-- The row after the first call of a day. -/
def StreakRow.playedOn (row : StreakRow) (day : Int) : StreakRow :=
  if row.lastPlayDay = some day then row
  else
    let newStreak := if row.lastPlayDay = some (day - 1) then row.streak + 1 else 1
    { row with
      streak := newStreak
      lastPlayDay := some day
      streakRepairAvailable := 3 ≤ newStreak }

/-- A year that the database and `toISOString` write alike. -/
def PlainYear (day : Int) : Prop := 1 ≤ yearOf day ∧ yearOf day ≤ 9999

instance (day : Int) : Decidable (PlainYear day) := inferInstanceAs (Decidable (_ ∧ _))

theorem PlainYear.fourDigits {day : Int} (h : PlainYear day) : FourDigits (yearOf day) := by
  unfold PlainYear FourDigits at *
  omega

section

variable {t t' : Int}

theorem parseDay_toUtcDay (h : FourDigits (yearOf (dayOf t))) :
    parseDay (toUtcDay t) = some (dayOf t) := by
  rw [toUtcDay, take_toISOString h, parseDay_isoDay h]

theorem castDate_toUtcDay (h : PlainYear (dayOf t)) : castDate (toUtcDay t) = some (dayOf t) := by
  rw [castDate, parseDay_toUtcDay h.fourDigits]
  simp [h.1]

/-- The database refuses the text of any other year. -/
theorem castDate_toUtcDay_eq_none (h : ¬ PlainYear (dayOf t)) : castDate (toUtcDay t) = none := by
  by_cases hfour : FourDigits (yearOf (dayOf t))
  · have hyear : ¬ 1 ≤ yearOf (dayOf t) := by
      unfold PlainYear FourDigits at *
      omega
    rw [castDate, parseDay_toUtcDay hfour]
    simpa using hyear
  · rw [castDate, toUtcDay, parseDay_take_toISOString hfour]
    rfl

/-- The texts of two days are the same if the days are. -/
theorem toUtcDay_eq_iff (h : PlainYear (dayOf t)) : toUtcDay t = toUtcDay t' ↔ dayOf t = dayOf t' := by
  constructor
  · intro htext
    by_cases h' : PlainYear (dayOf t')
    · have hday := castDate_toUtcDay h
      rw [htext, castDate_toUtcDay h'] at hday
      exact (Option.some.inj hday).symm
    · have hday := castDate_toUtcDay h
      rw [htext, castDate_toUtcDay_eq_none h'] at hday
      simp at hday
  · intro hday
    rw [toUtcDay, toUtcDay, take_toISOString h.fourDigits,
      take_toISOString (hday ▸ h.fourDigits), hday]

theorem dayDiff_toUtcDay (h : PlainYear (dayOf t)) (h' : PlainYear (dayOf t')) :
    dayDiff (toUtcDay t) (toUtcDay t') = some (dayOf t' - dayOf t) := by
  rw [dayDiff, toUtcDay, toUtcDay, dateParse_take_toISOString h.fourDigits,
    dateParse_take_toISOString h'.fourDigits]
  show some _ = some _
  congr 1
  unfold msPerDay
  omega

end

section

variable {readBack : Int → Int} (hread : ∀ d, dayOf (readBack d) = d)
  (dispatchNotification : Uuid → Nat → Bool) {users : StreakRows} {userId : Uuid} {row : StreakRow}
include hread

theorem normalizeDay_eq_iff (hday : ∀ d, row.lastPlayDay = some d → PlainYear d) (t : Int) :
    normalizeDay (row.lastPlayDay.map readBack) = some (toUtcDay t) ↔
      row.lastPlayDay = some (dayOf t) := by
  cases hlast : row.lastPlayDay with
  | none => simp [normalizeDay]
  | some d =>
    have hplain : PlainYear (dayOf (readBack d)) := by
      rw [hread]
      exact hday d hlast
    have htexts : toUtcDay (readBack d) = toUtcDay t ↔ dayOf (readBack d) = dayOf t :=
      toUtcDay_eq_iff hplain
    rw [hread] at htexts
    simpa [normalizeDay, toUtcDay] using htexts

/-- On a day of a plain year, the row is that of `playedOn`, whatever the call returns. -/
theorem updateStreak_row (hrow : users.getUserStreak userId = some row)
    (hday : ∀ d, row.lastPlayDay = some d → PlainYear d) (now : Instant)
    (hnow : PlainYear (dayOf now)) :
    (updateStreak readBack dispatchNotification users userId now).2.getUserStreak userId =
      some (row.playedOn (dayOf now)) := by
  have hfound : users userId = some row ∧ row.deleted = false := by
    simpa [StreakRows.getUserStreak, Option.filter_eq_some_iff] using hrow
  have hsame := normalizeDay_eq_iff hread hday now
  have hdiff : (normalizeDay (row.lastPlayDay.map readBack)).any
      (fun day => decide (dayDiff day (toUtcDay now) = some 1)) =
        decide (row.lastPlayDay = some (dayOf now - 1)) := by
    cases hlast : row.lastPlayDay with
    | none => rfl
    | some d =>
      have hplain : PlainYear (dayOf (readBack d)) := by
        rw [hread]
        exact hday d hlast
      have hdays := dayDiff_toUtcDay hplain hnow
      rw [hread] at hdays
      have hone : dayOf now - d = 1 ↔ d = dayOf now - 1 := by omega
      have htext : (toISOString (readBack d)).take 10 = toUtcDay (readBack d) := rfl
      simp only [normalizeDay, Option.map_some, Option.any_some, htext, hdays, Option.some.injEq,
        hone]
  unfold updateStreak
  simp only [hrow]
  by_cases hlast : row.lastPlayDay = some (dayOf now)
  · rw [if_pos (hsame.mpr hlast), StreakRow.playedOn, if_pos hlast]
    exact hrow
  · rw [if_neg (fun h => hlast (hsame.mp h)), hdiff, StreakRows.setUserStreak,
      castDate_toUtcDay hnow, StreakRow.playedOn, if_neg hlast]
    simp only [decide_eq_true_eq]
    generalize (if row.lastPlayDay = some (dayOf now - 1) then row.streak + 1 else 1) = newStreak
    -- with a notification or without, the row is stored
    rw [apply_ite Prod.snd, ite_self]
    simp [StreakRows.getUserStreak, hfound]

/-- On a day of another year, no row changes. -/
theorem updateStreak_unchanged (hrow : users.getUserStreak userId = some row)
    (hday : ∀ d, row.lastPlayDay = some d → PlainYear d) (now : Instant)
    (hnow : ¬ PlainYear (dayOf now)) :
    (updateStreak readBack dispatchNotification users userId now).2 = users := by
  have hother : normalizeDay (row.lastPlayDay.map readBack) ≠ some (toUtcDay now) := by
    intro h
    exact hnow (hday _ ((normalizeDay_eq_iff hread hday now).mp h))
  unfold updateStreak
  simp only [hrow]
  rw [if_neg hother, StreakRows.setUserStreak, castDate_toUtcDay_eq_none hnow]

end

/-! ### All calls -/

/-- One of the calls was on this day. -/
def PlayedOn (calls : List Instant) (day : Int) : Prop := ∃ now ∈ calls, dayOf now = day

/-- The number of consecutive days, the last of them this one, that have a property. -/
def IsStreak (played : Int → Prop) (day : Int) (n : Nat) : Prop :=
  (∀ i : Nat, i < n → played (day - i)) ∧ ¬ played (day - n)

/-- What the row says of the calls, the last of which is known. -/
def CountsDays (calls : List Instant) (row : StreakRow) : Prop :=
  match calls.getLast? with
  | none => row.streak = 0 ∧ row.lastPlayDay = none
  | some now => row.lastPlayDay = some (dayOf now) ∧
      IsStreak (PlayedOn calls) (dayOf now) row.streak

section

variable {calls : List Instant} {now : Instant} {row : StreakRow}

theorem playedOn_concat (day : Int) :
    PlayedOn (calls ++ [now]) day ↔ PlayedOn calls day ∨ dayOf now = day := by
  unfold PlayedOn
  simp only [List.mem_append, List.mem_singleton, or_and_right, exists_or, exists_eq_left]

/-- No call was after the last one. -/
theorem le_getLast (hsorted : calls.Pairwise fun a b => a.1 ≤ b.1) {last : Instant}
    (hlast : calls.getLast? = some last) {day : Int} (hday : PlayedOn calls day) :
    day ≤ dayOf last := by
  obtain ⟨call, hcall, rfl⟩ := hday
  obtain ⟨earlier, rfl⟩ := List.getLast?_eq_some_iff.mp hlast
  have hle : call.1 ≤ last.1 := by
    rcases List.mem_append.mp hcall with h | h
    · exact (List.pairwise_append.mp hsorted).2.2 call h last (List.mem_singleton_self last)
    · rw [List.mem_singleton.mp h]
  exact Int.ediv_le_ediv (by decide) hle

/-- One day more, of which only the days before were known. -/
theorem isStreak_succ {played played' : Int → Prop} {day : Int} {n : Nat}
    (hbefore : ∀ d, d < day → (played' d ↔ played d)) (hday : played' day)
    (h : IsStreak played (day - 1) n) : IsStreak played' day (n + 1) := by
  constructor
  · intro i hi
    cases i with
    | zero => simpa using hday
    | succ i =>
      rw [hbefore _ (by omega)]
      have hplayed := h.1 i (by omega)
      have heq : day - ((i + 1 : Nat) : Int) = day - 1 - i := by omega
      rwa [heq]
  · rw [hbefore _ (by omega)]
    have heq : day - ((n + 1 : Nat) : Int) = day - 1 - n := by omega
    rw [heq]
    exact h.2

/-- The first call of a day continues the streak of the day before, and begins one otherwise. -/
theorem countsDays_concat (hsorted : (calls ++ [now]).Pairwise fun a b => a.1 ≤ b.1)
    (h : CountsDays calls row) : CountsDays (calls ++ [now]) (row.playedOn (dayOf now)) := by
  have hplayed (d : Int) (hd : d < dayOf now) : PlayedOn (calls ++ [now]) d ↔ PlayedOn calls d := by
    have hne : dayOf now ≠ d := by omega
    simp [playedOn_concat, hne]
  have hnow : PlayedOn (calls ++ [now]) (dayOf now) := (playedOn_concat _).mpr (.inr rfl)
  unfold CountsDays at *
  rw [List.getLast?_concat]
  simp only
  cases hlast : calls.getLast? with
  | none =>
    obtain rfl := List.getLast?_eq_none_iff.mp hlast
    rw [hlast] at h
    rw [StreakRow.playedOn, h.2, if_neg (by simp), if_neg (by simp)]
    exact ⟨rfl, isStreak_succ (n := 0) hplayed hnow ⟨by simp, by simp [PlayedOn]⟩⟩
  | some last =>
    rw [hlast] at h
    simp only at h
    have hmax {d : Int} (hd : PlayedOn calls d) : d ≤ dayOf last :=
      le_getLast (List.pairwise_append.mp hsorted).1 hlast hd
    rw [StreakRow.playedOn, h.1]
    by_cases hsame : dayOf last = dayOf now
    · rw [if_pos (by rw [hsame]), ← hsame]
      refine ⟨h.1, ?_⟩
      have hplays : PlayedOn (calls ++ [now]) = PlayedOn calls := by
        funext d
        rw [eq_iff_iff, playedOn_concat, or_iff_left_iff_imp]
        rintro rfl
        exact ⟨last, List.mem_of_getLast? hlast, hsame⟩
      rw [hplays]
      exact h.2
    · rw [if_neg (by simpa using hsame)]
      refine ⟨rfl, ?_⟩
      by_cases hnext : dayOf last = dayOf now - 1
      · rw [if_pos (by rw [hnext])]
        exact isStreak_succ hplayed hnow (hnext ▸ h.2)
      · rw [if_neg (by simpa using hnext)]
        refine isStreak_succ (n := 0) hplayed hnow ⟨by simp, fun hday => ?_⟩
        -- the day before would be one after the last
        have hle := hmax hday
        have hlate : dayOf last ≤ dayOf now :=
          Int.ediv_le_ediv (by decide) ((List.pairwise_append.mp hsorted).2.2 last
            (List.mem_of_getLast? hlast) now (List.mem_singleton_self now))
        simp only [Int.natCast_zero, sub_zero] at hle
        omega

theorem CountsDays.plainYear (h : CountsDays calls row)
    (hplain : ∀ now ∈ calls, PlainYear (dayOf now)) {d : Int} (hd : row.lastPlayDay = some d) :
    PlainYear d := by
  unfold CountsDays at h
  cases hlast : calls.getLast? with
  | none => simp [hlast, hd] at h
  | some last =>
    rw [hlast] at h
    obtain rfl : dayOf last = d := Option.some.inj (h.1.symm.trans hd)
    exact hplain last (List.mem_of_getLast? hlast)

end

section

variable {readBack : Int → Int} (hread : ∀ d, dayOf (readBack d) = d)
  (dispatchNotification : Uuid → Nat → Bool) {users : StreakRows} {userId : Uuid} {row : StreakRow}
include hread

/-- While all days are in plain years, the row counts days. -/
theorem updateStreaks_countsDays (hrow : users.getUserStreak userId = some row)
    (hnew : row.streak = 0 ∧ row.lastPlayDay = none) (calls : List Instant)
    (hsorted : calls.Pairwise fun a b => a.1 ≤ b.1) (hplain : ∀ now ∈ calls, PlainYear (dayOf now)) :
    ∃ row', (updateStreaks readBack dispatchNotification userId users calls).getUserStreak userId =
      some row' ∧ CountsDays calls row' := by
  induction calls using List.reverseRecOn with
  | nil => exact ⟨row, hrow, hnew⟩
  | append_singleton calls now ih =>
    obtain ⟨row', hrow', hcounts⟩ := ih (List.pairwise_append.mp hsorted).1
      (fun call hcall => hplain call (List.mem_append_left _ hcall))
    have hday {d : Int} := hcounts.plainYear (d := d)
      fun call hcall => hplain call (List.mem_append_left _ hcall)
    rw [updateStreaks_concat]
    exact ⟨_, updateStreak_row hread dispatchNotification hrow' (fun _ => hday) now
      (hplain now (by simp)), countsDays_concat hsorted hcounts⟩

/-- **A streak counts consecutive days**, after each of the calls for a user who had none, if and
only if all of the calls are in the years from 1 to 9999. -/
theorem streak_counts_days_iff (hrow : users.getUserStreak userId = some row)
    (hnew : row.streak = 0 ∧ row.lastPlayDay = none) (calls : List Instant)
    (hsorted : calls.Pairwise fun a b => a.1 ≤ b.1) :
    (∀ earlier, earlier <+: calls → ∃ row',
      (updateStreaks readBack dispatchNotification userId users earlier).getUserStreak userId =
        some row' ∧ CountsDays earlier row') ↔
      ∀ now ∈ calls, PlainYear (dayOf now) := by
  constructor
  · intro h
    induction calls using List.reverseRecOn with
    | nil => simp
    | append_singleton calls now ih =>
      have hcalls := (List.pairwise_append.mp hsorted).1
      have hplain := ih hcalls fun earlier hearlier =>
        h earlier (hearlier.trans (List.prefix_append calls [now]))
      obtain ⟨row', hrow', hcounts⟩ :=
        updateStreaks_countsDays hread dispatchNotification hrow hnew calls hcalls hplain
      obtain ⟨row'', hrow'', hcounts''⟩ := h (calls ++ [now]) (List.prefix_refl _)
      rw [List.forall_mem_append]
      refine ⟨hplain, ?_⟩
      intro last hlast
      obtain rfl := List.mem_singleton.mp hlast
      by_contra hnot
      -- the row is still the one of the calls before, and its day is not that of this call
      rw [updateStreaks_concat, updateStreak_unchanged hread dispatchNotification hrow'
        (fun _ => hcounts.plainYear hplain) last hnot] at hrow''
      obtain rfl : row' = row'' := Option.some.inj (hrow'.symm.trans hrow'')
      rw [CountsDays, List.getLast?_concat] at hcounts''
      exact hnot (hcounts.plainYear hplain hcounts''.1)
  · intro hplain earlier hearlier
    exact updateStreaks_countsDays hread dispatchNotification hrow hnew earlier
      (hsorted.sublist hearlier.sublist) fun now hnow => hplain now (hearlier.subset hnow)

end

/-- A user who has never played. -/
def neverPlayed : StreakRow where
  streak := 0
  lastPlayDay := none
  streakRepairsThisMonth := 0
  streakRepairAvailable := false
  deleted := false

/-- The last millisecond of a November and the first of December. -/
def twoDays : List Instant := [⟨1764547199999, by decide⟩, ⟨1764547200000, by decide⟩]

theorem twoDays_counted :
    ∃ row', (updateStreaks (· * msPerDay) (fun _ _ => true) 1 (fun _ => some neverPlayed)
      twoDays).getUserStreak 1 = some row' ∧ CountsDays twoDays row' := by
  have hrow : StreakRows.getUserStreak (fun _ => some neverPlayed) 1 = some neverPlayed := rfl
  exact (streak_counts_days_iff dayOf_midnight (fun _ _ => true) hrow ⟨rfl, rfl⟩ twoDays
    (by decide)).mpr (by decide) twoDays List.prefix_rfl

/-- The first call ever, at the beginning of the year 10000, is refused and not counted. -/
theorem year_10000_not_counted :
    (updateStreak (· * msPerDay) (fun _ _ => true) (fun _ => some neverPlayed) 1
        ⟨253402300800000, by decide⟩).1 = .error (.invalidDate "+010000-01".toList) ∧
      ¬ ∃ row', (updateStreaks (· * msPerDay) (fun _ _ => true) 1 (fun _ => some neverPlayed)
          [⟨253402300800000, by decide⟩]).getUserStreak 1 = some row' ∧
        CountsDays [⟨253402300800000, by decide⟩] row' := by
  refine ⟨by decide, ?_⟩
  intro ⟨row', hrow', hcounts⟩
  obtain rfl : neverPlayed = row' := Option.some.inj hrow'
  exact absurd hcounts.1 (by decide)

/-- The tables of the competition count days alike. -/
theorem playedOn_eq_updateStreak (row : StreakRow) (user : User) (day : Int)
    (hstreak : row.streak = user.streak) (hday : row.lastPlayDay = user.lastPlayDay) :
    (row.playedOn day).streak = (user.updateStreak day).streak ∧
      (row.playedOn day).lastPlayDay = (user.updateStreak day).lastPlayDay := by
  unfold StreakRow.playedOn User.updateStreak
  rw [hday, hstreak]
  split
  · exact ⟨hstreak, hday⟩
  · exact ⟨rfl, rfl⟩

end BrandBlitz.Competition
