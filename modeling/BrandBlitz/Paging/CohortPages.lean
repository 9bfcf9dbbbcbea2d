import BrandBlitz.Paging.Cohort

/-!
# BrandBlitz.Paging.CohortPages

**The pages of a cohort are its export.** The filters that are set have consecutive placeholders
(`buildCohortWhere_eq`, `reindex_havingClauses`), so in all three statements every placeholder
stands for the value it is compared with (`WellBound`). The statements then keep the same users,
and the cursor of a page admits those that come after its last one.
-/

namespace BrandBlitz.Paging.Cohort

open BrandBlitz.Lib
open BrandBlitz.Lib.Keyset (Page Lists Visited Cut lookAhead)
open BrandBlitz.Lib.Placeholders
open BrandBlitz.Competition (LeagueName)
open BrandBlitz.Sessions (dbError)

/-! ### The cohort -/

/-- The filter as the database reads it. -/
structure Bounds where
  activeSince : Option Timestamp
  createdAfter : Option Timestamp
  createdBefore : Option Timestamp
  leastFlags : Option Int
  mostFlags : Option Int

def CohortFilter.read (moment : Moment) (filter : CohortFilter) : Except ApiError Bounds := do
  let activeSince ← filter.activeWithinDays.mapM moment.daysAgo
  let createdAfter ← (filter.createdAfter.filter (· ≠ [])).mapM moment.readTimestamp
  let createdBefore ← (filter.createdBefore.filter (· ≠ [])).mapM moment.readTimestamp
  let leastFlags ← filter.minFraudFlags.mapM fun n => (Param.number n).asBigint
  let mostFlags ← filter.maxFraudFlags.mapM fun n => (Param.number n).asBigint
  return { activeSince, createdAfter, createdBefore, leastFlags, mostFlags }

/-- What the filter asks of the columns that are compared with parameters. -/
def Bounds.takesColumns (filter : CohortFilter) (bounds : Bounds) (user : User) : Bool :=
  filter.league.all (fun league => user.league = some league) &&
    filter.status.all (fun status => user.status = status) &&
    filter.minTotalEarnedUsdc.all (fun least => least ≤ user.totalEarnedUsdc) &&
    bounds.activeSince.all (fun since => user.lastActiveAt.any (since ≤ ·)) &&
    bounds.createdAfter.all (fun after => after ≤ user.createdAt) &&
    bounds.createdBefore.all (fun before => user.createdAt ≤ before)

/-- Does the filter take the user, by the row? -/
def Bounds.takes (filter : CohortFilter) (bounds : Bounds) (user : User) : Bool :=
  user.deletedAt.isNone &&
    filter.signupSource.all (fun source => user.referralCode.isSome = (source = .referral)) &&
    bounds.takesColumns filter user

/-- And by the number of its flags? -/
def Bounds.takesFlags (bounds : Bounds) (user : CohortUser) : Bool :=
  bounds.leastFlags.all (fun least => least ≤ (user.fraudFlagCount : Int)) &&
    bounds.mostFlags.all (fun most => (user.fraudFlagCount : Int) ≤ most)

/-- The users whom the filter describes, the latest first. -/
def cohort (moment : Moment) (db : CohortDb) (filter : CohortFilter) :
    Except ApiError (List CohortUser) := do
  let bounds ← filter.read moment
  return Sql.orderBy cohortKey
    (((db.users.filter (bounds.takes filter)).map db.group).filter bounds.takesFlags)

/-! ### Placeholders -/

/-- What belongs at the other side of a column or a clause. -/
def valueOf (filter : CohortFilter) (cursor : Option Cursor) (limit : Option Nat) :
    Compared → Option Param
  | .filtered column => filter.value column
  | .fraudFlagCount op => filter.bound op
  | .cursorCreatedAt => cursor.map fun values => .json (values.get "created_at")
  | .cursorId => cursor.map fun values => .json (values.get "id")
  | .limit => limit.map fun n => .number n

/-- Every placeholder refers to the value it is compared with, and there are as many parameters
as placeholders. -/
structure WellBound (st : Statement) (value : Compared → Option Param) : Prop where
  refers : Refers st.params value st.uses
  bound : st.params.length = (st.uses.map Prod.snd).foldl max 0

def columns : List Filtered :=
  [.league, .status, .totalEarnedUsdc, .lastActiveAt, .createdAfter, .createdBefore]

/-- The columns that are compared, with their values. -/
def CohortFilter.compared (filter : CohortFilter) : List (Filtered × Param) :=
  columns.filterMap fun column => (filter.value column).map (column, ·)

def CohortFilter.flagBounds (filter : CohortFilter) : List (Op × Param) :=
  [Op.ge, .le].filterMap fun op => (filter.bound op).map (op, ·)

section Placeholders

variable {filter : CohortFilter}

theorem value_of_mem_compared {item : Filtered × Param} (h : item ∈ filter.compared) :
    filter.value item.1 = some item.2 := by
  obtain ⟨column, -, hitem⟩ := List.mem_filterMap.mp h
  obtain ⟨value, hvalue, rfl⟩ := Option.map_eq_some_iff.mp hitem
  exact hvalue

theorem bound_of_mem_flagBounds {item : Op × Param} (h : item ∈ filter.flagBounds) :
    filter.bound item.1 = some item.2 := by
  obtain ⟨op, -, hitem⟩ := List.mem_filterMap.mp h
  obtain ⟨value, hvalue, rfl⟩ := Option.map_eq_some_iff.mp hitem
  exact hvalue

/-- Conditions are added with consecutive numbers. -/
theorem foldl_add (value : Filtered → Option Param) (columns : List Filtered) (w : Where) :
    columns.foldl (fun w column => w.add column (value column)) w =
      let items := columns.filterMap fun column => (value column).map (column, ·)
      { conditions := w.conditions ++
          (numbered w.idx items).map fun use => .compares use.1 use.2
        params := w.params ++ items.map Prod.snd
        idx := w.idx + items.length } := by
  induction columns generalizing w with
  | nil => simp
  | cons column rest ih =>
      rw [List.foldl_cons, ih]
      cases hvalue : value column with
      | none => simp [Where.add, hvalue]
      | some v => simp [Where.add, hvalue, Nat.add_assoc, Nat.add_comm 1]

theorem buildCohortWhere_eq (filter : CohortFilter) :
    buildCohortWhere filter 1 =
      { conditions := .notDeleted :: signupCondition filter.signupSource ++
          (numbered 1 filter.compared).map fun use => .compares use.1 use.2
        params := filter.compared.map Prod.snd
        idx := 1 + filter.compared.length } := by
  have h := foldl_add filter.value columns
    ⟨.notDeleted :: signupCondition filter.signupSource, [], 1⟩
  exact h

/-- The operator is found again in the clause that was written with it. -/
theorem opMatch_havingText (op : Op) (n : Nat) : opMatch (havingText op n) = op := by
  cases op <;> rfl

theorem params_havingClauses (filter : CohortFilter) (pIdx : Nat) :
    (havingClauses filter pIdx).params = filter.flagBounds.map Prod.snd := by
  cases hge : filter.bound .ge <;> cases hle : filter.bound .le <;>
    simp [havingClauses, CohortFilter.flagBounds, Having.add, hge, hle]

/-- **The second pass numbers the clauses as the first one did.** -/
theorem reindex_havingClauses (filter : CohortFilter) (pIdx : Nat) :
    reindex pIdx (havingClauses filter pIdx).clauses = numbered pIdx filter.flagBounds := by
  cases hge : filter.bound .ge <;> cases hle : filter.bound .le <;>
    simp [havingClauses, CohortFilter.flagBounds, Having.add, reindex, opMatch_havingText, hge, hle]

/-- What the three statements have in common. -/
structure Composed (filter : CohortFilter) (st : Statement) (more : List Param) : Prop where
  conditions : st.conditions = .notDeleted :: signupCondition filter.signupSource ++
    (numbered 1 filter.compared).map fun use => .compares use.1 use.2
  having : st.having = numbered (1 + filter.compared.length) filter.flagBounds
  params : st.params = filter.compared.map Prod.snd ++ filter.flagBounds.map Prod.snd ++ more

theorem countStatement_composed (filter : CohortFilter) :
    Composed filter (countStatement filter) [] := by
  constructor <;>
    simp [countStatement, buildCohortWhere_eq, reindex_havingClauses, params_havingClauses]

theorem exportStatement_composed (filter : CohortFilter) :
    Composed filter (exportStatement filter) [.number EXPORT_ROW_LIMIT] := by
  constructor <;>
    simp [exportStatement, buildCohortWhere_eq, reindex_havingClauses, params_havingClauses]

theorem pageStatement_composed (filter : CohortFilter) (limit : Nat)
    (cursorValues : Option Cursor) :
    Composed filter (pageStatement filter limit cursorValues)
      ((cursorValues.toList.flatMap fun values =>
        [.json (values.get "created_at"), .json (values.get "id")]) ++
          [.number (limit + 1 : Nat)]) := by
  cases cursorValues <;> constructor <;>
    simp [pageStatement, buildCohortWhere_eq, reindex_havingClauses, params_havingClauses]

/-- The values of the filter, in the order of their placeholders. -/
def CohortFilter.items (filter : CohortFilter) : List (Compared × Param) :=
  filter.compared.map (fun item => (.filtered item.1, item.2)) ++
    filter.flagBounds.map fun item => (.fraudFlagCount item.1, item.2)

theorem value_of_mem_items (cursor : Option Cursor) (limit : Option Nat)
    {item : Compared × Param} (h : item ∈ filter.items) :
    valueOf filter cursor limit item.1 = some item.2 := by
  rcases List.mem_append.mp h with h | h
  · obtain ⟨item, hitem, rfl⟩ := List.mem_map.mp h
    exact value_of_mem_compared hitem
  · obtain ⟨item, hitem, rfl⟩ := List.mem_map.mp h
    exact bound_of_mem_flagBounds hitem

namespace Composed

variable {st : Statement} {more : List Param}

theorem params_eq (h : Composed filter st more) :
    st.params = filter.items.map Prod.snd ++ more := by
  rw [h.params, CohortFilter.items]
  simp [Function.comp_def]

/-- Its placeholders are those of the filter, the cursor and the limit. -/
theorem mem_uses_iff (h : Composed filter st more) {use : Compared × Nat} :
    use ∈ st.uses ↔ use ∈ numbered 1 filter.items ∨
      use ∈ (st.cursor.toList.flatMap fun n =>
        [(.cursorCreatedAt, n), (.cursorCreatedAt, n), (.cursorId, n + 1)]) ++
          st.limit.toList.map fun n => (.limit, n) := by
  have hsignup : (Condition.notDeleted :: signupCondition filter.signupSource).filterMap
      Condition.use = [] := by
    cases filter.signupSource with
    | none => rfl
    | some source => cases source <;> rfl
  have hcompared : ((numbered 1 filter.compared).map fun use =>
      Condition.compares use.1 use.2).filterMap Condition.use =
        (numbered 1 filter.compared).map fun use => (.filtered use.1, use.2) := by
    rw [List.filterMap_map, ← List.filterMap_eq_map]
    rfl
  unfold Statement.uses CohortFilter.items
  rw [h.conditions, h.having, List.filterMap_append, hsignup, hcompared, List.nil_append,
    numbered_append, numbered_map, numbered_map, List.length_map]
  simp only [List.mem_append]
  tauto

/-- The placeholders of the filter refer to its values. -/
theorem wellBound (h : Composed filter st more) {cursor : Option Cursor} {limit : Option Nat}
    (hmore : Refers st.params (valueOf filter cursor limit)
      ((st.cursor.toList.flatMap fun n =>
        [(.cursorCreatedAt, n), (.cursorCreatedAt, n), (.cursorId, n + 1)]) ++
          st.limit.toList.map fun n => (.limit, n)))
    (hlast : st.params = [] ∨ ∃ w, (w, st.params.length) ∈ st.uses) :
    WellBound st (valueOf filter cursor limit) := by
  have hrefers : Refers st.params (valueOf filter cursor limit) st.uses := by
    intro use huse
    rcases h.mem_uses_iff.mp huse with huse | huse
    · have hitems : Refers ([] ++ filter.items.map Prod.snd ++ more)
          (valueOf filter cursor limit) (numbered 1 filter.items) :=
        refers_numbered (fun _ => value_of_mem_items cursor limit) rfl
      rw [List.nil_append, ← h.params_eq] at hitems
      exact hitems use huse
    · exact hmore use huse
  exact ⟨hrefers, (foldl_max_eq hrefers hlast).symm⟩

end Composed

theorem length_items : filter.items.length = filter.compared.length + filter.flagBounds.length := by
  simp [CohortFilter.items]

theorem countStatement_wellBound (filter : CohortFilter) (cursor : Option Cursor)
    (limit : Option Nat) : WellBound (countStatement filter) (valueOf filter cursor limit) := by
  have h := countStatement_composed filter
  refine h.wellBound (by simp [countStatement, refers_nil]) ?_
  rw [h.params_eq, List.append_nil]
  by_cases hitems : filter.items = []
  · exact .inl (by rw [hitems]; rfl)
  · have hlast : ∃ w, (w, 1 + filter.items.length - 1) ∈ numbered 1 filter.items :=
      exists_last_numbered hitems
    obtain ⟨w, hw⟩ := hlast
    refine .inr ⟨w, h.mem_uses_iff.mpr (.inl ?_)⟩
    simpa using hw

theorem exportStatement_wellBound (filter : CohortFilter) (cursor : Option Cursor) :
    WellBound (exportStatement filter) (valueOf filter cursor (some EXPORT_ROW_LIMIT)) := by
  have h := exportStatement_composed filter
  have hlimit : (exportStatement filter).limit = some (filter.items.length + 1) := by
    simp [exportStatement, buildCohortWhere_eq, params_havingClauses, length_items]
    omega
  have hcursor : (exportStatement filter).cursor = none := rfl
  refine h.wellBound ?_ (.inr ⟨.limit, h.mem_uses_iff.mpr (.inr ?_)⟩)
  · simp [hlimit, hcursor, refers_cons, refers_nil, valueOf, h.params_eq]
  · simp [hlimit, hcursor, h.params_eq]

theorem pageStatement_wellBound (filter : CohortFilter) (limit : Nat) (cursor : Option Cursor) :
    WellBound (pageStatement filter limit cursor) (valueOf filter cursor (some (limit + 1))) := by
  have h := pageStatement_composed filter limit cursor
  cases cursor with
  | none =>
      have hlimit : (pageStatement filter limit none).limit = some (filter.items.length + 1) := by
        simp [pageStatement, buildCohortWhere_eq, params_havingClauses, length_items]
        omega
      have hcursor : (pageStatement filter limit none).cursor = none := rfl
      refine h.wellBound ?_ (.inr ⟨.limit, h.mem_uses_iff.mpr (.inr ?_)⟩)
      · simp [hlimit, hcursor, refers_cons, refers_nil, valueOf, h.params_eq]
      · simp [hlimit, hcursor, h.params_eq]
  | some values =>
      have hlimit : (pageStatement filter limit (some values)).limit =
          some (filter.items.length + 3) := by
        simp [pageStatement, buildCohortWhere_eq, params_havingClauses, length_items]
        omega
      have hcursor : (pageStatement filter limit (some values)).cursor =
          some (filter.items.length + 1) := by
        simp [pageStatement, buildCohortWhere_eq, params_havingClauses, length_items]
        omega
      refine h.wellBound ?_ (.inr ⟨.limit, h.mem_uses_iff.mpr (.inr ?_)⟩)
      · simp [hlimit, hcursor, refers_cons, refers_nil, valueOf, h.params_eq]
      · simp [hlimit, hcursor, h.params_eq]

end Placeholders

/-! ### Whom the statements keep -/

section Meaning

variable {α W P : Type}

/-- A test that is made only if there is a value. -/
def optionalTest (test : W → P → Except ApiError (α → Sql.Cond)) (value : W → Option P) (w : W) :
    Except ApiError (α → Bool) :=
  match value w with
  | none => .ok fun _ => true
  | some p => (test w p).map fun test a => Sql.holds (test a)

/-- A test against something that is read off the value. -/
theorem optionalTest_read {V X : Type} {test : W → P → Except ApiError (α → Sql.Cond)}
    {value : W → Option P} {w : W} {given : Option X} {param : X → P}
    {read : X → Except ApiError V} {cond : V → α → Sql.Cond} {keeps : V → α → Bool}
    (hvalue : value w = given.map param) (htest : ∀ x, test w (param x) = (read x).map cond)
    (hkeeps : ∀ v a, Sql.holds (cond v a) = keeps v a) :
    optionalTest test value w = (given.mapM read).map fun bound a => bound.all (keeps · a) := by
  unfold optionalTest
  rw [hvalue]
  cases given with
  | none => rfl
  | some x =>
      simp only [Option.map_some, Option.mapM_some, htest]
      cases read x with
      | error err => rfl
      | ok v => exact congrArg Except.ok (funext fun a => hkeeps v a)

/-- The tests that are made, joined, are the optional tests joined. -/
theorem mapM_optionalTest (test : W → P → Except ApiError (α → Sql.Cond)) (value : W → Option P)
    (ws : List W) :
    ((ws.filterMap fun w => (value w).map (w, ·)).mapM fun item => test item.1 item.2).map
        (fun tests a => tests.all fun test => Sql.holds (test a)) =
      (ws.mapM (optionalTest test value)).map fun tests a => tests.all (· a) := by
  induction ws with
  | nil => rfl
  | cons w rest ih =>
      rw [List.mapM_cons]
      cases hvalue : value w with
      | none =>
          rw [List.filterMap_cons_none (by rw [hvalue]; rfl), ih]
          simp only [optionalTest, hvalue, bind, Except.bind]
          cases rest.mapM (optionalTest test value) <;> simp [Except.map, pure, Except.pure]
      | some p =>
          rw [List.filterMap_cons_some (by rw [hvalue]; rfl), List.mapM_cons]
          simp only [optionalTest, hvalue, bind, Except.bind]
          cases test w p with
          | error err => rfl
          | ok first =>
              revert ih
              cases (rest.filterMap fun w => (value w).map (w, ·)).mapM
                  (fun item => test item.1 item.2) <;>
                cases rest.mapM (optionalTest test value) <;>
                simp [Except.map, pure, Except.pure, funext_iff]
              exact fun hsame a => by rw [hsame a]

end Meaning

section Kept

variable {moment : Moment} {filter : CohortFilter} {db : CohortDb}

theorem leagueName_text_inj {a b : LeagueName} : a.text = b.text ↔ a = b := by
  cases a <;> cases b <;> decide

theorem test_league : optionalTest (Filtered.test moment) filter.value .league =
    .ok fun user => filter.league.all fun league => user.league = some league := by
  unfold optionalTest CohortFilter.value
  cases filter.league with
  | none => rfl
  | some league =>
      refine congrArg Except.ok (funext fun user => ?_)
      rw [Bool.eq_iff_iff]
      cases hleague : user.league with
      | none => simp [hleague]
      | some own =>
          simp [hleague, leagueName_text_inj]
          exact eq_comm

theorem test_status : optionalTest (Filtered.test moment) filter.value .status =
    .ok fun user => filter.status.all fun status => user.status = status := by
  unfold optionalTest CohortFilter.value
  cases filter.status with
  | none => rfl
  | some status =>
      refine congrArg Except.ok (funext fun user => ?_)
      rw [Bool.eq_iff_iff]
      simp [Users.UserStatus.text_inj]
      exact eq_comm

theorem holds_ge [LE α] [DecidableLE α] (x y : α) :
    Sql.holds (Sql.ge (some x) (some y)) = decide (y ≤ x) := by
  simp [Sql.ge, Sql.compare]

theorem test_totalEarnedUsdc :
    optionalTest (Filtered.test moment) filter.value .totalEarnedUsdc =
      .ok fun user => filter.minTotalEarnedUsdc.all fun least => least ≤ user.totalEarnedUsdc := by
  unfold optionalTest CohortFilter.value
  cases filter.minTotalEarnedUsdc with
  | none => rfl
  | some least =>
      refine congrArg Except.ok (funext fun user => ?_)
      exact holds_ge user.totalEarnedUsdc least

theorem test_lastActiveAt : optionalTest (Filtered.test moment) filter.value .lastActiveAt =
    (filter.activeWithinDays.mapM moment.daysAgo).map fun since user =>
      since.all fun since => user.lastActiveAt.any (since ≤ ·) := by
  refine optionalTest_read rfl (fun _ => rfl) fun since user => ?_
  cases user.lastActiveAt <;> simp [Sql.ge, Sql.compare, Sql.holds]

theorem test_createdAfter : optionalTest (Filtered.test moment) filter.value .createdAfter =
    ((filter.createdAfter.filter (· ≠ [])).mapM moment.readTimestamp).map fun after user =>
      after.all fun after => after ≤ user.createdAt := by
  refine optionalTest_read rfl (fun text => ?_) fun after user => holds_ge user.createdAt after
  simp only [Filtered.test, Param.asTimestamp]
  cases moment.readTimestamp text <;> rfl

theorem test_createdBefore : optionalTest (Filtered.test moment) filter.value .createdBefore =
    ((filter.createdBefore.filter (· ≠ [])).mapM moment.readTimestamp).map fun before user =>
      before.all fun before => user.createdAt ≤ before := by
  refine optionalTest_read rfl (fun text => ?_) fun before user => holds_ge before user.createdAt
  simp only [Filtered.test, Param.asTimestamp]
  cases moment.readTimestamp text <;> rfl

theorem test_ge : optionalTest Op.test filter.bound .ge =
    (filter.minFraudFlags.mapM fun n => (Param.number n).asBigint).map fun least user =>
      least.all fun least => least ≤ (user.fraudFlagCount : Int) :=
  optionalTest_read rfl (fun _ => rfl) fun least user => holds_ge (user.fraudFlagCount : Int) least

theorem test_le : optionalTest Op.test filter.bound .le =
    (filter.maxFraudFlags.mapM fun n => (Param.number n).asBigint).map fun most user =>
      most.all fun most => (user.fraudFlagCount : Int) ≤ most :=
  optionalTest_read rfl (fun _ => rfl) fun most user => holds_ge most (user.fraudFlagCount : Int)

/-- The tests of the `WHERE` that compare with a parameter. -/
def CohortFilter.tests (moment : Moment) (filter : CohortFilter) :
    Except ApiError (List (User → Sql.Cond)) :=
  filter.compared.mapM fun item => item.1.test moment item.2

/-- The tests of the `HAVING`. -/
def CohortFilter.flagTests (filter : CohortFilter) :
    Except ApiError (List (CohortUser → Sql.Cond)) :=
  filter.flagBounds.mapM fun item => item.1.test item.2

/-- **The tests ask what the filter asks**, and fail where it cannot be read. -/
theorem tests_eq (moment : Moment) (filter : CohortFilter) :
    (do
      let tests ← filter.tests moment
      let flagTests ← filter.flagTests
      return ((fun user => tests.all fun test => Sql.holds (test user)),
        fun user => flagTests.all fun test => Sql.holds (test user))) =
      (filter.read moment).map fun bounds =>
        (bounds.takesColumns filter, bounds.takesFlags) := by
  have hcolumns := mapM_optionalTest (Filtered.test moment) filter.value columns
  have hflags := mapM_optionalTest Op.test filter.bound [.ge, .le]
  simp only [columns, List.mapM_cons, List.mapM_nil, test_league, test_status,
    test_totalEarnedUsdc, test_lastActiveAt, test_createdAfter, test_createdBefore] at hcolumns
  simp only [List.mapM_cons, List.mapM_nil, test_ge, test_le] at hflags
  change (filter.tests moment).map _ = _ at hcolumns
  change filter.flagTests.map _ = _ at hflags
  have hsplit : (do
      let tests ← filter.tests moment
      let flagTests ← filter.flagTests
      return ((fun user => tests.all fun test => Sql.holds (test user)),
        fun user => flagTests.all fun test => Sql.holds (test user))) =
      ((filter.tests moment).map fun tests user => tests.all fun test => Sql.holds (test user)).bind
        fun takesColumns =>
          (filter.flagTests.map fun tests user => tests.all fun test => Sql.holds (test user)).map
            fun takesFlags => (takesColumns, takesFlags) := by
    cases filter.tests moment with
    | error err => rfl
    | ok tests => cases filter.flagTests <;> rfl
  rw [hsplit, hcolumns, hflags]
  unfold CohortFilter.read Bounds.takesColumns
  cases filter.activeWithinDays.mapM moment.daysAgo with
  | error err => rfl
  | ok activeSince =>
      cases (filter.createdAfter.filter (· ≠ [])).mapM moment.readTimestamp with
      | error err => rfl
      | ok createdAfter =>
          cases (filter.createdBefore.filter (· ≠ [])).mapM moment.readTimestamp with
          | error err => rfl
          | ok createdBefore =>
              cases filter.minFraudFlags.mapM fun n => (Param.number n).asBigint with
              | error err => rfl
              | ok leastFlags =>
                  cases filter.maxFraudFlags.mapM fun n => (Param.number n).asBigint with
                  | error err => rfl
                  | ok mostFlags =>
                      refine congrArg Except.ok (Prod.ext (funext fun user => ?_)
                        (funext fun user => ?_))
                      · simp [Bool.and_assoc]
                      · simp [Bounds.takesFlags]

/-- The conditions of the `WHERE` that have no parameter. -/
theorem fixed_tests (moment : Moment) (filter : CohortFilter) (binding : Nat → Param) :
    ∃ tests, (.notDeleted :: signupCondition filter.signupSource).mapM
        (Condition.test moment binding) = .ok tests ∧
      ∀ user, tests.all (fun test => Sql.holds (test user)) =
        (user.deletedAt.isNone && filter.signupSource.all fun source =>
          user.referralCode.isSome = (source = .referral)) := by
  cases filter.signupSource with
  | none => exact ⟨_, rfl, fun user => by simp⟩
  | some source =>
      cases source with
      | referral => exact ⟨_, rfl, fun user => by simp⟩
      | organic => exact ⟨_, rfl, fun user => by cases h : user.referralCode <;> simp [h]⟩

theorem having_tests {st : Statement} {more : List Param} (h : Composed filter st more)
    (hflags : Refers st.params filter.bound
      (numbered (1 + filter.compared.length) filter.flagBounds)) :
    st.having.mapM (fun (op, n) => op.test (bindingOf (.json .null) st.params n)) =
      filter.flagTests := by
  rw [h.having]
  exact mapM_numbered Op.test (fun _ => bound_of_mem_flagBounds) hflags

/-- **What a statement keeps**: the users whom the filter takes and the cursor admits. -/
theorem groups_eq {st : Statement} {more : List Param} {cursor : Option Cursor}
    {limit : Option Nat} (h : Composed filter st more)
    (hbound : WellBound st (valueOf filter cursor limit)) (moment : Moment) (db : CohortDb) :
    st.groups moment db = (filter.read moment).bind fun bounds =>
      (cursorTest moment (bindingOf (.json .null) st.params) st.cursor).map fun beyond =>
        ((db.users.filter fun user => bounds.takes filter user && Sql.holds (beyond user)).map
          db.group).filter bounds.takesFlags := by
  have hrefers : ∀ use ∈ numbered 1 filter.items, use ∈ st.uses :=
    fun use huse => h.mem_uses_iff.mpr (.inl huse)
  have hcolumns : Refers st.params filter.value (numbered 1 filter.compared) := by
    intro use huse
    refine hbound.refers (.filtered use.1, use.2) (hrefers _ ?_)
    rw [CohortFilter.items, numbered_append, numbered_map]
    exact List.mem_append_left _ (List.mem_map.mpr ⟨use, huse, rfl⟩)
  have hflags : Refers st.params filter.bound
      (numbered (1 + filter.compared.length) filter.flagBounds) := by
    intro use huse
    refine hbound.refers (.fraudFlagCount use.1, use.2) (hrefers _ ?_)
    rw [CohortFilter.items, numbered_append, numbered_map, numbered_map, List.length_map]
    exact List.mem_append_right _ (List.mem_map.mpr ⟨use, huse, rfl⟩)
  -- every placeholder has the value of its item
  obtain ⟨fixed, hfixed, hholds⟩ :=
    fixed_tests moment filter (bindingOf (.json .null) st.params)
  have htests : ((numbered 1 filter.compared).map fun use =>
      Condition.compares use.1 use.2).mapM
        (Condition.test moment (bindingOf (.json .null) st.params)) = filter.tests moment := by
    rw [List.mapM_map]
    exact mapM_numbered (Filtered.test moment) (fun _ => value_of_mem_compared) hcolumns
  have hhaving := having_tests h hflags
  have hgroups : st.groups moment db = Except.bind (do
      let tests ← filter.tests moment
      let flagTests ← filter.flagTests
      return ((fun user => tests.all fun test => Sql.holds (test user)),
        fun user => flagTests.all fun test => Sql.holds (test user))) fun takes =>
      (cursorTest moment (bindingOf (.json .null) st.params) st.cursor).map fun beyond =>
        ((db.users.filter fun user => fixed.all (fun test => Sql.holds (test user)) &&
          takes.1 user && Sql.holds (beyond user)).map db.group).filter takes.2 := by
    unfold Statement.groups bindParams
    rw [if_pos hbound.bound, h.conditions]
    simp only [List.mapM_append, hfixed, htests, hhaving, bind, Except.bind, pure, Except.pure]
    cases filter.tests moment with
    | error err => rfl
    | ok tests =>
        cases filter.flagTests with
        | error err => rfl
        | ok flagTests =>
            dsimp only
            cases cursorTest moment (bindingOf (.json .null) st.params) st.cursor with
            | error err => rfl
            | ok beyond => simp [Except.map, Sql.holds_conjunction]
  rw [hgroups, tests_eq]
  cases filter.read moment with
  | error err => rfl
  | ok bounds =>
      refine congrArg (fun f => Except.map f _) (funext fun beyond => ?_)
      simp only [hholds, Bounds.takes]

end Kept

/-! ### The pages -/

section Pages

variable {moment : Moment} {filter : CohortFilter} {db : CohortDb} {limit : Nat}

/-- The users that the filter takes, in no order. -/
def Bounds.kept (filter : CohortFilter) (bounds : Bounds) (db : CohortDb) : List CohortUser :=
  ((db.users.filter (bounds.takes filter)).map db.group).filter bounds.takesFlags

theorem kept_ids_nodup (filter : CohortFilter) (db : CohortDb) (bounds : Bounds) :
    ((bounds.kept filter db).map fun user => user.id).Nodup := by
  have hsub : (bounds.kept filter db).Sublist
      ((db.users.filter (bounds.takes filter)).map db.group) := List.filter_sublist
  refine List.Nodup.sublist (hsub.map fun user => user.id) ?_
  rw [List.map_map]
  exact db.ids_nodup.sublist (List.filter_sublist.map _)

theorem cohortKey_unique {rows : List CohortUser} (h : (rows.map fun user => user.id).Nodup) :
    Sql.KeyUnique cohortKey rows :=
  Sql.KeyUnique.of_column (fun key => OrderDual.ofDual (ofLex key).2) h

/-- Without a cursor. -/
theorem groups_first {st : Statement} {more : List Param} {cursor : Option Cursor}
    {limit : Option Nat} (h : Composed filter st more)
    (hbound : WellBound st (valueOf filter cursor limit)) (hcursor : st.cursor = none) :
    st.groups moment db = (filter.read moment).map fun bounds => bounds.kept filter db := by
  rw [groups_eq h hbound, hcursor]
  cases filter.read moment with
  | error err => rfl
  | ok bounds => simp [cursorTest, Except.bind, Except.map, Bounds.kept]

theorem rows_eq {st : Statement} {cursor : Option Cursor} {k n : Nat}
    (hbound : WellBound st (valueOf filter cursor (some k))) (hlimit : st.limit = some n)
    (hk : k < 2 ^ 63) :
    st.rows moment db = (st.groups moment db).map fun groups =>
      (Sql.orderBy cohortKey groups).take k := by
  have huse : (Compared.limit, n) ∈ st.uses := by simp [Statement.uses, hlimit]
  have hvalue : valueOf filter cursor (some k) .limit =
      some (bindingOf (.json .null) st.params n) := bindingOf_of_refers hbound.refers huse
  have hparam : Param.number k = bindingOf (.json .null) st.params n := Option.some.inj hvalue
  have hread : (Param.number k).asBigint = .ok (k : Int) := by
    simp only [Param.asBigint, Rat.den_natCast, Rat.num_natCast]
    rw [if_pos ⟨trivial, by omega, by omega⟩]
  unfold Statement.rows bindParams
  rw [if_pos hbound.bound, hlimit]
  simp only [← hparam, hread, bind, Except.bind]
  cases st.groups moment db <;> rfl

theorem getCohortUsersForExport_eq (moment : Moment) (db : CohortDb) (filter : CohortFilter) :
    getCohortUsersForExport moment db filter =
      (cohort moment db filter).map (·.take EXPORT_ROW_LIMIT) := by
  have hbound := exportStatement_wellBound filter none
  rw [getCohortUsersForExport, rows_eq hbound rfl (by decide),
    groups_first (exportStatement_composed filter) hbound rfl, cohort]
  cases filter.read moment <;> rfl

/-- What the cursor of a row admits. -/
def cohortAfter (b r : CohortUser) : Bool :=
  Sql.holds (Sql.or (Sql.lt (some r.createdAt) (some (clip b.createdAt)))
    (Sql.and (Sql.eq (some r.createdAt) (some (clip b.createdAt)))
      (Sql.lt (some r.id) (some b.id))))

/-- With the cursor of a row. -/
theorem groups_next {st : Statement} {more : List Param} {limit : Option Nat} {b : CohortUser}
    {p : Nat} (h : Composed filter st more)
    (hbound : WellBound st (valueOf filter (some (cohortCursor b)) limit))
    (hcursor : st.cursor = some p) :
    st.groups moment db =
      (filter.read moment).map fun bounds => (bounds.kept filter db).filter (cohortAfter b) := by
  have hcreatedAt : (Compared.cursorCreatedAt, p) ∈ st.uses := by
    simp [Statement.uses, hcursor]
  have hid : (Compared.cursorId, p + 1) ∈ st.uses := by simp [Statement.uses, hcursor]
  have hfirst : valueOf filter (some (cohortCursor b)) limit .cursorCreatedAt =
      some (bindingOf (.json .null) st.params p) := bindingOf_of_refers hbound.refers hcreatedAt
  have hsecond : valueOf filter (some (cohortCursor b)) limit .cursorId =
      some (bindingOf (.json .null) st.params (p + 1)) := bindingOf_of_refers hbound.refers hid
  have htest : cursorTest moment (bindingOf (.json .null) st.params) st.cursor =
      .ok fun user => Sql.or (Sql.lt (some user.createdAt) (some (clip b.createdAt)))
        (Sql.and (Sql.eq (some user.createdAt) (some (clip b.createdAt)))
          (Sql.lt (some user.id) (some b.id))) := by
    rw [hcursor, cursorTest, ← Option.some.inj hfirst, ← Option.some.inj hsecond]
    rfl
  rw [groups_eq h hbound, htest]
  cases filter.read moment with
  | error err => rfl
  | ok bounds =>
      refine congrArg Except.ok ?_
      unfold Bounds.kept
      dsimp only
      rw [List.filter_comm _ bounds.takesFlags, List.filter_map (p := cohortAfter b),
        List.filter_filter]
      refine congrArg (fun users => (users.map db.group).filter bounds.takesFlags)
        (List.filter_congr fun user _ => ?_)
      exact Bool.and_comm _ _

theorem pageStatement_limit (filter : CohortFilter) (limit : Nat) (cursor : Option Cursor) :
    ∃ n, (pageStatement filter limit cursor).limit = some n := by
  cases cursor <;> exact ⟨_, rfl⟩

/-- The rows of a page, and one more if there is one. -/
theorem pageStatement_rows (moment : Moment) (db : CohortDb) (filter : CohortFilter)
    (hlimit : limit + 1 < 2 ^ 63) (b : Option CohortUser) :
    (pageStatement filter limit (b.map cohortCursor)).rows moment db =
      (cohort moment db filter).map fun rows =>
        (Keyset.window rows cohortAfter b).take (limit + 1) := by
  have hbound := pageStatement_wellBound filter limit (b.map cohortCursor)
  have hcomposed := pageStatement_composed filter limit (b.map cohortCursor)
  obtain ⟨n, hn⟩ := pageStatement_limit filter limit (b.map cohortCursor)
  rw [rows_eq hbound hn hlimit, cohort]
  cases b with
  | none =>
      rw [groups_first hcomposed hbound rfl]
      cases filter.read moment <;> rfl
  | some b =>
      rw [groups_next hcomposed hbound rfl]
      cases filter.read moment with
      | error err => rfl
      | ok bounds =>
          have hsort : Sql.orderBy cohortKey ((bounds.kept filter db).filter (cohortAfter b)) =
              (Sql.orderBy cohortKey (bounds.kept filter db)).filter (cohortAfter b) :=
            Sql.orderBy_filter (cohortKey_unique (kept_ids_nodup filter db bounds)) (cohortAfter b)
          exact congrArg (fun rows : List CohortUser => Except.ok (rows.take (limit + 1))) hsort

theorem getCohortUsers_eq (moment : Moment) (db : CohortDb) (filter : CohortFilter)
    (limit : Nat) (b : Option CohortUser) :
    getCohortUsers moment db filter limit (b.map cohortCursor) =
      (cohort moment db filter).map fun rows =>
        { lookAhead (min limit COHORT_MAX_LIMIT) cohortCursor
            ((Keyset.window rows cohortAfter b).take (min limit COHORT_MAX_LIMIT + 1)) with
          total := rows.length } := by
  have hcount : (countStatement filter).groups moment db =
      (filter.read moment).map fun bounds => bounds.kept filter db :=
    groups_first (countStatement_composed filter) (countStatement_wellBound filter none none) rfl
  have hsmall : min limit COHORT_MAX_LIMIT + 1 < 2 ^ 63 :=
    Nat.lt_of_le_of_lt (Nat.succ_le_succ (Nat.min_le_right ..)) (by decide)
  have hdecode : decodeCursorSafe (b.map cohortCursor) ["created_at", "id"] =
      b.map cohortCursor := by cases b <;> rfl
  unfold getCohortUsers
  simp only [hcount, hdecode, pageStatement_rows moment db filter hsmall, cohort, bind, Except.bind]
  cases filter.read moment with
  | error err => rfl
  | ok bounds =>
      simp [Except.map, pure, Except.pure, (Sql.orderBy_perm cohortKey _).length_eq, Bounds.kept]

theorem cohortAfter_iff {b r : CohortUser} (hb : WholeMs b.createdAt) :
    cohortAfter b r = true ↔ cohortKey b < cohortKey r := by
  unfold cohortAfter cohortKey
  rw [clip_eq_self_iff.mpr hb, Prod.Lex.toLex_lt_toLex]
  simp

end Pages

/-! ### When the pages are the export -/

/-- The page without the total. -/
def fetchCohort (moment : Moment) (db : CohortDb) (filter : CohortFilter) (limit : Nat)
    (cursor : Option Cursor) : Except ApiError (Page CohortUser Cursor) :=
  (getCohortUsers moment db filter limit cursor).map CohortPage.toPage

/-- Following the cursors comes to an end and gives the export, and every page has its number of
users; or neither query can be made. -/
def PagesAreExport (moment : Moment) (db : CohortDb) (filter : CohortFilter) (limit : Nat) :
    Prop :=
  match getCohortUsersForExport moment db filter with
  | .ok exported =>
      Lists (fetchCohort moment db filter limit) exported ∧
        ∀ cursor, Visited (fetchCohort moment db filter limit) cursor →
          ∀ page, getCohortUsers moment db filter limit cursor = .ok page →
            page.total = exported.length
  | .error err => getCohortUsers moment db filter limit none = .error err


theorem cohort_pairwise {moment : Moment} {db : CohortDb} {filter : CohortFilter}
    {rows : List CohortUser} (h : cohort moment db filter = .ok rows) :
    rows.Pairwise (fun a b => cohortKey a < cohortKey b) ∧ rows.Nodup ∧
      ∀ row ∈ rows, ∃ user ∈ db.users, row = db.group user := by
  unfold cohort at h
  cases hread : filter.read moment with
  | error err =>
      rw [hread] at h
      cases h
  | ok bounds =>
      rw [hread] at h
      cases h
      have hunique := cohortKey_unique (kept_ids_nodup filter db bounds)
      refine ⟨Sql.orderBy_pairwise_lt hunique, hunique.orderBy_nodup, fun row hrow => ?_⟩
      have hkept := (Sql.orderBy_perm cohortKey _).mem_iff.mp hrow
      obtain ⟨user, huser, rfl⟩ := List.mem_map.mp (List.mem_of_mem_filter hkept)
      exact ⟨user, List.mem_of_mem_filter huser, rfl⟩

theorem length_cohort_le {moment : Moment} {db : CohortDb} {filter : CohortFilter}
    {rows : List CohortUser} (h : cohort moment db filter = .ok rows) :
    rows.length ≤ db.users.length := by
  unfold cohort at h
  cases hread : filter.read moment with
  | error err =>
      rw [hread] at h
      cases h
  | ok bounds =>
      rw [hread] at h
      cases h
      rw [(Sql.orderBy_perm cohortKey _).length_eq]
      refine (List.length_filter_le _ _).trans ?_
      rw [List.length_map]
      exact List.length_filter_le _ _

theorem pagesAreExport (moment : Moment) (db : CohortDb) (filter : CohortFilter) {limit : Nat}
    (hlimit : 0 < limit) (hms : ∀ user ∈ db.users, WholeMs user.createdAt)
    (hcount : ∀ users, cohort moment db filter = .ok users → users.length ≤ EXPORT_ROW_LIMIT) :
    PagesAreExport moment db filter limit := by
  have hpage := getCohortUsers_eq moment db filter limit
  unfold PagesAreExport
  rw [getCohortUsersForExport_eq]
  cases hcohort : cohort moment db filter with
  | error err =>
      have hfirst := hpage none
      rw [hcohort] at hfirst
      exact hfirst
  | ok rows =>
      rw [hcohort] at hpage
      obtain ⟨hsorted, hnodup, hrows⟩ := cohort_pairwise hcohort
      have hall : rows.take EXPORT_ROW_LIMIT = rows :=
        List.take_of_length_le (hcount rows hcohort)
      have hfetch : ∀ b : Option CohortUser,
          fetchCohort moment db filter limit (b.map cohortCursor) =
            .ok (lookAhead (min limit COHORT_MAX_LIMIT) cohortCursor
              ((Keyset.window rows cohortAfter b).take (min limit COHORT_MAX_LIMIT + 1))) :=
        fun b => congrArg (Except.map CohortPage.toPage) (hpage b)
      have hadmits : ∀ b ∈ rows, ∀ r ∈ rows,
          cohortAfter b r = true ↔ cohortKey b < cohortKey r := by
        intro b hb r _
        obtain ⟨user, huser, rfl⟩ := hrows b hb
        exact cohortAfter_iff (hms user huser)
      have hpositive : 0 < min limit COHORT_MAX_LIMIT := Nat.lt_min.mpr ⟨hlimit, by decide⟩
      dsimp only [Except.map]
      rw [hall]
      constructor
      · exact Keyset.lookAhead_lists hsorted hpositive hadmits fun b _ => hfetch b
      · intro cursor hvisited page hcursor
        obtain ⟨b, rfl⟩ := hvisited.exists_row hfetch
        rw [hpage b] at hcursor
        cases hcursor
        rfl

/-- **The pages of a cohort are its export**: for every filter and every limit, with whole
milliseconds and no more users than are exported. In the three statements every placeholder
refers to the value it is compared with. -/
theorem cohort_pages_are_export (moment : Moment) (db : CohortDb) (filter : CohortFilter)
    {limit : Nat} (hlimit : 0 < limit) (hms : ∀ user ∈ db.users, WholeMs user.createdAt)
    (hcount : ∀ users, cohort moment db filter = .ok users → users.length ≤ EXPORT_ROW_LIMIT) :
    WellBound (countStatement filter) (valueOf filter none none) ∧
      (∀ cursor, WellBound (pageStatement filter (min limit COHORT_MAX_LIMIT) cursor)
        (valueOf filter cursor (some (min limit COHORT_MAX_LIMIT + 1)))) ∧
      WellBound (exportStatement filter) (valueOf filter none (some EXPORT_ROW_LIMIT)) ∧
      PagesAreExport moment db filter limit :=
  ⟨countStatement_wellBound filter none none, pageStatement_wellBound filter _,
    exportStatement_wellBound filter none, pagesAreExport moment db filter hlimit hms hcount⟩

/-! ### Three users -/

def player (id : Uuid) (createdAt : Timestamp) : User where
  id := id
  email := []
  displayName := []
  username := none
  role := .player
  status := .active
  league := some .gold
  totalScore := 0
  totalEarnedUsdc := 12
  challengesPlayed := 0
  streak := 0
  lastActiveAt := some createdAt
  createdAt := createdAt
  referralCode := none
  deletedAt := none

/-- Two of them were created in the same millisecond, and one has a flag. -/
def threePlayers : CohortDb where
  users := [player 1 5000, player 2 9000, player 3 5000]
  ids_nodup := by decide
  fraudFlags := [⟨2, .open⟩, ⟨3, .resolved⟩]

/-- The first second of 1970, in which no text is a time. -/
def firstSecond : Moment where
  readTimestamp _ := .error (dbError "invalid input syntax for type timestamp with time zone"
    "22007")
  daysAgo days := .ok (1000000 - (days * 86400000000).floor)

/-- Every filter but the texts. -/
def everyFilter : CohortFilter :=
  ⟨some .organic, some .gold, some .active, some 0, some 1, some 10, some 7, none, none⟩

theorem three_players_exported :
    WellBound (countStatement everyFilter) (valueOf everyFilter none none) ∧
      (∀ cursor, WellBound (pageStatement everyFilter (min 2 COHORT_MAX_LIMIT) cursor)
        (valueOf everyFilter cursor (some (min 2 COHORT_MAX_LIMIT + 1)))) ∧
      WellBound (exportStatement everyFilter) (valueOf everyFilter none (some EXPORT_ROW_LIMIT)) ∧
      PagesAreExport firstSecond threePlayers everyFilter 2 := by
  refine cohort_pages_are_export firstSecond threePlayers everyFilter (by decide) (by decide) ?_
  exact fun users husers => (length_cohort_le husers).trans (by decide)

example : ((getCohortUsers firstSecond threePlayers everyFilter 2 none).toOption.map fun page =>
    (page.rows.map (·.id), page.total, page.nextCursor.isSome)) = some ([2, 3], 3, true) := by
  decide +kernel

end BrandBlitz.Paging.Cohort
