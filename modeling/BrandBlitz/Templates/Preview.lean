import BrandBlitz.Lib.SqlExpr
import BrandBlitz.Payout.Usdc
import BrandBlitz.Templates.Periods

/-!
# BrandBlitz.Templates.Preview

**The preview of the next challenges** (`getUpcomingChallengesFromTemplatesByBrandId` of
`apps/api/src/db/queries/challenge-templates.ts`), which computes the next period of a template
in SQL.

The database refuses the statement: `t.duration_hours || 0` puts two integers together with an
operator for texts (`upcoming_fails`). With the hours alone it would be the period that
`computeNextPeriodForTemplate` computes (`nextStartsAt_agrees`, `nextEndsAt_would_agree`).
-/

namespace BrandBlitz.Templates

open BrandBlitz.Lib
open BrandBlitz.Lib.Calendar BrandBlitz.Lib.JsDate BrandBlitz.Lib.SqlExpr
open BrandBlitz.Paging (Uuid)
open BrandBlitz.Payout (stroopsToUsdc)
open BrandBlitz.Sessions (dbError)

/-! ### The statement -/

/-- The columns of `challenge_templates` that are computed with. -/
inductive TemplateColumn where
  | recurrenceRule | durationHours
deriving DecidableEq, Repr

def templateColumns : TemplateColumn → SqlType
  | .recurrenceRule => .text
  | .durationHours => .integer

def RecurrenceRule.text : RecurrenceRule → Text
  | .daily => "daily".toList
  | .weekly => "weekly".toList
  | .biweekly => "biweekly".toList
  | .monthly => "monthly".toList
  | .custom => "custom".toList

def ChallengeTemplate.row (template : ChallengeTemplate) :
    (c : TemplateColumn) → (templateColumns c).Val
  | .recurrenceRule => template.recurrenceRule.text
  | .durationHours => template.durationHours

/-- `t.recurrence_rule = '…'`. -/
def ruleIs (rule : RecurrenceRule) : Expr TemplateColumn :=
  .binary .equal (.column .recurrenceRule) (.literal .text rule.text)

/-- `DATE_TRUNC('…', NOW()) + INTERVAL '…'`. -/
def truncatedPlus (field : TruncField) (i : Interval) : Expr TemplateColumn :=
  .binary .plus (.dateTrunc field .now) (.literal .interval i)

def nextStartsAt : Expr TemplateColumn :=
  .caseWhen (ruleIs .daily) (truncatedPlus .day ⟨0, 1, 0⟩)
    (.caseWhen (ruleIs .weekly) (truncatedPlus .week ⟨0, 7, 0⟩)
      (.caseWhen (ruleIs .biweekly) (truncatedPlus .week ⟨0, 14, 0⟩)
        (.caseWhen (ruleIs .monthly) (truncatedPlus .month ⟨1, 0, 0⟩)
          (.binary .plus .now (.literal .interval ⟨0, 1, 0⟩)))))

/-- `(CASE … END) + … * INTERVAL '1 hour'`. -/
def startsPlusHours (hours : Expr TemplateColumn) : Expr TemplateColumn :=
  .binary .plus nextStartsAt (.binary .times hours (.literal .interval ⟨0, 0, 3600000⟩))

/-- With `(t.duration_hours || 0)`. -/
def nextEndsAt : Expr TemplateColumn :=
  startsPlusHours (.binary .concat (.column .durationHours) (.literal .integer 0))

structure UpcomingChallenge where
  templateId : Uuid
  recurrenceRule : RecurrenceRule
  nextStartsAt : Text
  nextEndsAt : Text
  poolAmountUsdc : Text
  durationHours : Int
deriving DecidableEq, Repr

/-- `t.pool_amount_usdc::text`. -/
def poolAmountUsdcText (stroops : Int) : Text :=
  if stroops < 0 then '-' :: stroopsToUsdc stroops.natAbs else stroopsToUsdc stroops.natAbs

def sqlError (err : SqlError) : ApiError := dbError err.message err.code

section
variable (output : (a : SqlType) → a.Val → Text) (dateString : Option Int → Text)

/-- The statement and what becomes of its rows. `dateString` is `String` of a date. -/
def getUpcomingChallengesFromTemplatesByBrandId (templates : List ChallengeTemplate)
    (brandId : Uuid) (limit : Option Nat) (now : Int) :
    Except ApiError (List UpcomingChallenge) := do
  -- The whole statement is analysed before it runs.
  let startsAt ← (nextStartsAt.analyzeAs templateColumns .timestamptz).mapError sqlError
  let endsAt ← (nextEndsAt.analyzeAs templateColumns .timestamptz).mapError sqlError
  let found := templates.filter fun t =>
    t.brandId = brandId && t.status = .active && t.deletedAt.isNone
  let rows ← found.mapM fun t => do
    let starts ← (startsAt.eval output t.row now).mapError sqlError
    let ends ← (endsAt.eval output t.row now).mapError sqlError
    return (t, starts, ends)
  return ((Sql.orderBy (fun row => row.2.1) rows).take (limit.getD 5)).map fun (t, starts, ends) =>
    { templateId := t.id
      recurrenceRule := t.recurrenceRule
      nextStartsAt := dateString (some starts)
      nextEndsAt := dateString (some ends)
      poolAmountUsdc := poolAmountUsdcText t.poolAmountStroops
      durationHours := t.durationHours }

/-- The preview is there, and what it says of a template is the next period. -/
def PreviewAgrees (templates : List ChallengeTemplate) (brandId : Uuid) (limit : Option Nat)
    (now : Int) (template : ChallengeTemplate) : Prop :=
  ∃ upcoming,
    getUpcomingChallengesFromTemplatesByBrandId output dateString templates brandId limit now =
        .ok upcoming ∧
      ∀ next ∈ upcoming, next.templateId = template.id →
        next.nextStartsAt = dateString (computeNextPeriodForTemplate template (some now)).startsAt ∧
          next.nextEndsAt = dateString (computeNextPeriodForTemplate template (some now)).endsAt

end

/-! ### The next start and its term -/

/-- The condition on the rule, analysed. -/
def ruleIsTerm (rule : RecurrenceRule) : Term templateColumns .boolean :=
  .binary .equal (.column .recurrenceRule) (.literal .text rule.text)

def truncatedPlusTerm (field : TruncField) (i : Interval) : Term templateColumns .timestamptz :=
  .binary .addInterval (.dateTrunc field .now) (.literal .interval i)

def nextStartsAtTerm : Term templateColumns .timestamptz :=
  .caseWhen (ruleIsTerm .daily) (truncatedPlusTerm .day ⟨0, 1, 0⟩)
    (.caseWhen (ruleIsTerm .weekly) (truncatedPlusTerm .week ⟨0, 7, 0⟩)
      (.caseWhen (ruleIsTerm .biweekly) (truncatedPlusTerm .week ⟨0, 14, 0⟩)
        (.caseWhen (ruleIsTerm .monthly) (truncatedPlusTerm .month ⟨1, 0, 0⟩)
          (.binary .addInterval .now (.literal .interval ⟨0, 1, 0⟩)))))

/-- The end, if the hours were not put together with `0`. -/
def startsPlusHoursTerm : Term templateColumns .timestamptz :=
  .binary .addInterval nextStartsAtTerm
    (.binary .mulInterval (.column TemplateColumn.durationHours)
      (.literal .interval ⟨0, 0, 3600000⟩))

theorem nextStartsAt_analyze :
    nextStartsAt.analyzeAs templateColumns .timestamptz = .ok nextStartsAtTerm :=
  nextStartsAtTerm.analyzeAs_erase

theorem startsPlusHours_analyze :
    (startsPlusHours (.column .durationHours)).analyzeAs templateColumns .timestamptz =
      .ok startsPlusHoursTerm :=
  startsPlusHoursTerm.analyzeAs_erase

/-- `||` makes texts, and `t.duration_hours` and `0` are integers. -/
theorem nextEndsAt_analyze :
    nextEndsAt.analyzeAs templateColumns .timestamptz =
      .error (.undefinedOperator .concat .integer .integer) := by
  have hhours : (Expr.binary .concat (.column .durationHours) (.literal .integer 0)).analyze
      templateColumns = .error (.undefinedOperator .concat .integer .integer) :=
    Expr.analyze_binary_undefined rfl rfl rfl
  have hends : nextEndsAt.analyze templateColumns =
      .error (.undefinedOperator .concat .integer .integer) :=
    Expr.analyze_binary_right nextStartsAtTerm.analyze_erase (Expr.analyze_binary_left hhours)
  exact Expr.analyzeAs_error hends

section
variable (output : (a : SqlType) → a.Val → Text) (dateString : Option Int → Text)

/-- **The statement fails**, whatever the tables hold. -/
theorem upcoming_fails (templates : List ChallengeTemplate) (brandId : Uuid) (limit : Option Nat)
    (now : Int) :
    getUpcomingChallengesFromTemplatesByBrandId output dateString templates brandId limit now =
      .error (dbError "operator does not exist: integer || integer" "42883") := by
  unfold getUpcomingChallengesFromTemplatesByBrandId
  rw [nextStartsAt_analyze, nextEndsAt_analyze]
  rfl

/-- **The preview never agrees.** -/
theorem preview_never_agrees (templates : List ChallengeTemplate) (brandId : Uuid)
    (limit : Option Nat) (now : Int) (template : ChallengeTemplate) :
    ¬PreviewAgrees output dateString templates brandId limit now template := by
  intro h
  obtain ⟨upcoming, hok, -⟩ := h
  rw [upcoming_fails] at hok
  cases hok

end

/-- For a template of every week, at the epoch. -/
theorem no_preview_of_every_week :
    getUpcomingChallengesFromTemplatesByBrandId (fun _ _ => []) (fun _ => []) [everyWeek] 2 none 0 =
        .error (dbError "operator does not exist: integer || integer" "42883") ∧
      ¬PreviewAgrees (fun _ _ => []) (fun _ => []) [everyWeek] 2 none 0 everyWeek := by
  have hfails := upcoming_fails (fun _ _ => []) (fun _ => []) [everyWeek] 2 none 0
  refine ⟨hfails, fun h => ?_⟩
  obtain ⟨upcoming, hok, -⟩ := h
  rw [hfails] at hok
  cases hok

/-! ### What the columns would be -/

section
variable (output : (a : SqlType) → a.Val → Text) (template : ChallengeTemplate)

theorem eval_ruleIsTerm (rule : RecurrenceRule) (now : Int) :
    (ruleIsTerm rule).eval output template.row now =
      .ok (decide (template.recurrenceRule = rule)) := by
  have htext : template.recurrenceRule.text = rule.text ↔ template.recurrenceRule = rule := by
    generalize template.recurrenceRule = r
    cases r <;> cases rule <;> decide
  show Except.ok (decide (template.recurrenceRule.text = rule.text)) = _
  simp only [htext]

/-- Some days after the beginning of a period. -/
theorem eval_truncatedPlus_days (field : TruncField) (now : Int) {d e n : Int} (hn : 0 ≤ n)
    (hd : field.periods.start (field.periods.of (dayOf now)) = d) (he : e = d + n)
    (hrange : firstDay ≤ d ∧ e < endDay) :
    (truncatedPlusTerm field ⟨0, n, 0⟩).eval output template.row now = .ok (e * msPerDay) := by
  have htruncate : timestamp (d * msPerDay) = .ok (d * msPerDay) := timestamp_midnight (by omega)
  have hadd : Interval.addTo ⟨0, n, 0⟩ (d * msPerDay) = .ok (d * msPerDay + n * msPerDay) := by
    apply addTo_days
    unfold msPerDay
    omega
  show (field.truncate now >>= fun t => Interval.addTo ⟨0, n, 0⟩ t) = _
  rw [TruncField.truncate, hd, htruncate, he, add_mul]
  exact hadd

/-- The first of the next month. -/
theorem eval_truncatedPlus_month {now : Int}
    (hfirst : firstDay ≤ months.start (months.of (dayOf now)))
    (hlast : months.start (months.of (dayOf now) + 1) < endDay) :
    (truncatedPlusTerm .month ⟨1, 0, 0⟩).eval output template.row now =
      .ok (months.start (months.of (dayOf now) + 1) * msPerDay) := by
  have hlt := months.start_lt_succ (months.of (dayOf now))
  have htruncate := timestamp_midnight ⟨hfirst, hlt.trans hlast⟩
  have hadd := addTo_months (months.of (dayOf now)) 1 (by decide) ⟨hfirst.trans hlt.le, hlast⟩
  show (TruncField.month.truncate now >>= fun t => Interval.addTo ⟨1, 0, 0⟩ t) = _
  rw [TruncField.truncate, TruncField.periods, htruncate]
  exact hadd

/-- The start of a template's rule, by its cases. -/
theorem eval_nextStartsAtTerm (now : Int) :
    nextStartsAtTerm.eval output template.row now =
      match template.recurrenceRule with
      | .daily => (truncatedPlusTerm .day ⟨0, 1, 0⟩).eval output template.row now
      | .weekly => (truncatedPlusTerm .week ⟨0, 7, 0⟩).eval output template.row now
      | .biweekly => (truncatedPlusTerm .week ⟨0, 14, 0⟩).eval output template.row now
      | .monthly => (truncatedPlusTerm .month ⟨1, 0, 0⟩).eval output template.row now
      | .custom => Interval.addTo ⟨0, 1, 0⟩ now := by
  simp only [nextStartsAtTerm, Term.eval, eval_ruleIsTerm]
  cases template.recurrenceRule <;> rfl

theorem yearStart_le_dayOf {t y : Int} (h : y ≤ yearFromTime t) : yearStart y ≤ dayOf t :=
  (years.start_strictMono.monotone h).trans (yearOf_spec (dayOf t)).1

theorem eval_nextStartsAtTerm_agrees (now : Instant) {t : Int} (hyear : 100 ≤ yearFromTime now)
    (hstarts : computeNextStartDate template (some now) = some t) :
    nextStartsAtTerm.eval output template.row now = .ok t := by
  have hmake : makeFullYear (yearFromTime now) = yearFromTime now := if_neg (by omega)
  have hday := yearStart_le_dayOf hyear
  have hfirst : firstDay + 31 ≤ yearStart 100 := by decide
  have hend : maxDay < endDay := by decide
  rw [eval_nextStartsAtTerm]
  -- what is bounded by the dates of JavaScript is within those of the database
  by_cases hcustom : template.recurrenceRule = .custom
  · rw [computeNextStartDate_custom template now hcustom, timeClip_eq_some_iff] at hstarts
    obtain ⟨rfl, hrange⟩ := hstarts
    simp only [hcustom]
    have hadd := @addTo_days now 1
    rw [one_mul] at hadd
    apply hadd
    unfold dayOf msPerDay at *
    omega
  · rw [computeNextStartDate_eq template now hcustom] at hstarts
    split at hstarts
    next hnext =>
      cases hstarts
      have hle := hnext.1
      have hweek : firstDay ≤ weeks.start (weeks.of (dayOf now)) := by
        have hlt := weeks.lt_start_of (dayOf now)
        rw [weeks_start_add] at hlt
        omega
      generalize template.recurrenceRule = rule at *
      cases rule with
      | custom => exact absurd rfl hcustom
      | daily =>
          have hnextDay : nextDay .daily now = dayOf now + 1 := by
            rw [nextDay, currentDay_of_year hmake]
            rfl
          exact eval_truncatedPlus_days output template .day now (by omega) rfl hnextDay
            ⟨by show firstDay ≤ dayOf now; omega, by omega⟩
      | weekly =>
          have hnextDay : nextDay .weekly now = weeks.start (weeks.of (dayOf now)) + 7 := by
            rw [nextDay, currentDay_of_year hmake, weeks_start_add]
            rfl
          exact eval_truncatedPlus_days output template .week now (by omega) rfl hnextDay
            ⟨hweek, by omega⟩
      | biweekly =>
          have hnextDay : nextDay .biweekly now = weeks.start (weeks.of (dayOf now)) + 14 := by
            rw [nextDay, currentDay_of_year hmake, weeks_start_add]
            rfl
          exact eval_truncatedPlus_days output template .week now (by omega) rfl hnextDay
            ⟨hweek, by omega⟩
      | monthly =>
          have hnextDay : nextDay .monthly now = months.start (months.of (dayOf now) + 1) := by
            rw [nextDay, currentMonth_of_year hmake]
            rfl
          have hlength : months.start (months.of (dayOf now) + 1) ≤
              months.start (months.of (dayOf now)) + 31 := (monthStart_succ _).2
          have hmonth := months.lt_start_of (dayOf now)
          rw [hnextDay] at hle ⊢
          exact eval_truncatedPlus_month output template (by omega) (by omega)
    next hnone => cases hstarts

/-- **The column of the starts is right**: from the year 100 on, where a next period has a date,
it has the same one. -/
theorem nextStartsAt_agrees (now : Instant) {t : Int} (hyear : 100 ≤ yearFromTime now)
    (hstarts : (computeNextPeriodForTemplate template (some now)).startsAt = some t) :
    ∃ startsAt, nextStartsAt.analyzeAs templateColumns .timestamptz = .ok startsAt ∧
      startsAt.eval output template.row now = .ok t :=
  ⟨nextStartsAtTerm, nextStartsAt_analyze,
    eval_nextStartsAtTerm_agrees output template now hyear hstarts⟩

/-- On 1970-01-01, a Thursday, the next week is from 1970-01-05. -/
theorem first_monday_agrees :
    ∃ startsAt, nextStartsAt.analyzeAs templateColumns .timestamptz = .ok startsAt ∧
      startsAt.eval (fun _ _ => []) everyWeek.row 0 = .ok (4 * msPerDay) :=
  nextStartsAt_agrees (fun _ _ => []) everyWeek ⟨0, by decide⟩ (by decide) (by decide)

/-- **So would the ends be** without the `|| 0`. -/
theorem nextEndsAt_would_agree (now : Instant) {t : Int} (hyear : 100 ≤ yearFromTime now)
    (hduration : 0 ≤ template.durationHours)
    (hends : (computeNextPeriodForTemplate template (some now)).endsAt = some t) :
    startsPlusHoursTerm.eval output template.row now = .ok t := by
  obtain ⟨starts, hstarts, hclip⟩ := Option.bind_eq_some_iff.mp hends
  obtain ⟨hsum, hrange⟩ := timeClip_eq_some_iff.mp hclip
  have hnow := now_lt_computeNextStartDate template now (if_neg (by omega)) hstarts
  have hday := yearStart_le_dayOf hyear
  have hhours : (⟨0, 0, 3600000⟩ : Interval).times template.durationHours =
      ⟨0, 0, t - starts⟩ := by
    simp only [Interval.times, Interval.mk.injEq]
    omega
  have hfirst : firstDay ≤ yearStart 100 := by decide
  have hend : maxDay < endDay := by decide
  -- the start is after `now`, and the end is a date, so both are timestamps
  have hadd := @addTo_ms starts (t - starts)
  rw [add_sub_cancel] at hadd
  show (nextStartsAtTerm.eval output template.row now >>= fun starts =>
    ((⟨0, 0, 3600000⟩ : Interval).times template.durationHours).addTo starts) = _
  rw [eval_nextStartsAtTerm_agrees output template now hyear hstarts, hhours]
  apply hadd
  · unfold dayOf msPerDay at *
    omega
  · unfold dayOf msPerDay at *
    omega

end

end BrandBlitz.Templates
