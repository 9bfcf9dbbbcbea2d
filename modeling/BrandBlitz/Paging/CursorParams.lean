import BrandBlitz.Lib.Placeholders
import BrandBlitz.Paging.Timestamps

/-!
# BrandBlitz.Paging.CursorParams

**The placeholders of a cursor** in `getActiveChallenges`, `getPayouts` and
`getChallengesByBrandId` (`apps/api/src/db/queries/challenges.ts`,
`apps/api/src/db/queries/payouts.ts`).

All three give `buildCursorWhereSimple` the number of the first placeholder and then push the
two values of the cursor and the limit. The number has to be one more than the values pushed
before. It is 2 after one value in two of them; in `getActiveChallenges` it is 3 after none, so
the clause compares the pool with the limit and the id with a parameter that is not there.
-/

namespace BrandBlitz.Paging

open BrandBlitz.Lib
open BrandBlitz.Lib.Keyset (Page fullPage)
open BrandBlitz.Lib.Placeholders
open BrandBlitz.Sessions (dbError)

/-! ### The statements -/

/-- What the text of a query refers to parameters for, with the parameters. -/
structure KeysetStatement where
  /-- `whereExtra`, if there is a cursor -/
  whereExtra : Option Clause
  /-- the number after `LIMIT $` -/
  limitParam : Nat
  params : List JsonValue

/-- The columns of a clause, each with the number of the parameter it is compared with. -/
def Clause.placeholders : Clause → List (ColumnRef × Nat)
  | .lt column param | .gt column param | .eq column param => [(column, param)]
  | .and left right | .or left right => left.placeholders ++ right.placeholders

/-- The three queries, with the values that they push first. -/
inductive KeysetQuery where
  | activeChallenges
  | payouts (status : Option Text)
  | challengesByBrandId (brandId : Uuid)

def KeysetQuery.column : KeysetQuery → ColumnRef
  | .activeChallenges => ⟨some "c", "pool_amount_stroops"⟩
  | .payouts _ => ⟨some "p", "created_at"⟩
  | .challengesByBrandId _ => ⟨some "c", "created_at"⟩

/-- The key of the sort value in the cursor. -/
def KeysetQuery.sortKey : KeysetQuery → String
  | .activeChallenges => "pool_amount_stroops"
  | .payouts _ | .challengesByBrandId _ => "created_at"

/-- `statusParam`, as node-postgres sends it. -/
def statusValue (status : Option Text) : JsonValue :=
  match statusParam status with
  | some status => .string (.plain status)
  | none => .null

/-- `params` before the cursor. -/
def KeysetQuery.before : KeysetQuery → List JsonValue
  | .activeChallenges => []
  | .payouts status => [statusValue status]
  | .challengesByBrandId brandId => [.string (.uuid brandId)]

/-- The last argument of `buildCursorWhereSimple`. -/
def KeysetQuery.paramIndex : KeysetQuery → Nat
  | .activeChallenges => 3
  | .payouts _ | .challengesByBrandId _ => 2

/-- The statement that a query is sent with. -/
def KeysetQuery.statement (query : KeysetQuery) (limit : Nat) (cursor : Option Cursor) :
    KeysetStatement :=
  match decodeCursorSafe cursor [query.sortKey, "id"] with
  | none =>
      let params := query.before ++ [.number limit]
      ⟨none, params.length, params⟩
  | some values =>
      let (clause, _) := buildCursorWhereSimple query.column .desc (values.get query.sortKey)
        (values.get "id") query.paramIndex
      let params := query.before ++ [values.get query.sortKey, values.get "id"] ++ [.number limit]
      ⟨some clause, params.length, params⟩

/-- The cursor of a row with such values. -/
def KeysetQuery.cursor (query : KeysetQuery) (sortValue id : JsValue) : Cursor :=
  encodeCursor [(query.sortKey, sortValue), ("id", id)]

/-! ### Binding -/

/-- Where a placeholder stands. -/
inductive PlaceholderSite where
  | comparison (column : ColumnRef)
  | limit

def KeysetStatement.uses (st : KeysetStatement) : List (PlaceholderSite × Nat) :=
  ((st.whereExtra.toList.flatMap Clause.placeholders).map fun use =>
    (PlaceholderSite.comparison use.1, use.2)) ++ [(.limit, st.limitParam)]

/-- The value that belongs to a placeholder. -/
def KeysetQuery.valueAt (query : KeysetQuery) (limit : Nat) (sortValue id : JsonValue) :
    PlaceholderSite → Option JsonValue
  | .comparison column =>
      if column = query.column then some sortValue
      else if column = ⟨none, "id"⟩ then some id
      else none
  | .limit => some (.number limit)

/-- With the cursor of a row, every placeholder refers to the value it is compared with, and
the one of `LIMIT` to the limit. -/
def KeysetQuery.WellBound (query : KeysetQuery) (limit : Nat) (sortValue id : JsValue) : Prop :=
  let st := query.statement limit (some (query.cursor sortValue id))
  Refers st.params (query.valueAt limit sortValue.toJson id.toJson) st.uses

section
variable (query : KeysetQuery) (limit : Nat) (sortValue id : JsValue)

theorem column_ne_id : query.column ≠ ⟨none, "id"⟩ := by cases query <;> simp [KeysetQuery.column]

theorem decode_cursor : decodeCursorSafe (some (query.cursor sortValue id)) [query.sortKey, "id"] =
    some (query.cursor sortValue id) := by
  cases query <;> rfl

@[simp] theorem cursor_get_sortKey :
    (query.cursor sortValue id).get query.sortKey = sortValue.toJson := by
  cases query <;> rfl

@[simp] theorem cursor_get_id : (query.cursor sortValue id).get "id" = id.toJson := by
  cases query <;> rfl

/-- The statement with the cursor of a row. -/
theorem statement_cursor :
    query.statement limit (some (query.cursor sortValue id)) =
      ⟨some (.or (.lt query.column query.paramIndex)
          (.and (.eq query.column query.paramIndex) (.lt ⟨none, "id"⟩ (query.paramIndex + 1)))),
        query.before.length + 3,
        query.before ++ [sortValue.toJson, id.toJson, .number limit]⟩ := by
  simp [KeysetQuery.statement, decode_cursor, buildCursorWhereSimple]

/-- What is bound to the placeholders of the clause. -/
theorem wellBound_iff_refers :
    query.WellBound limit sortValue id ↔
      Refers (query.before ++ [sortValue.toJson, id.toJson, .number limit])
        (query.valueAt limit sortValue.toJson id.toJson)
        [(.comparison query.column, query.paramIndex), (.comparison query.column, query.paramIndex),
          (.comparison ⟨none, "id"⟩, query.paramIndex + 1), (.limit, query.before.length + 3)] := by
  simp [KeysetQuery.WellBound, statement_cursor, KeysetStatement.uses, Clause.placeholders]

variable {query limit sortValue id}

/-- After as many values as the number says, the clause gets the values of the cursor. -/
theorem wellBound_of_paramIndex (h : query.paramIndex = query.before.length + 1) :
    query.WellBound limit sortValue id := by
  have hsort : query.valueAt limit sortValue.toJson id.toJson (.comparison query.column) =
      some sortValue.toJson := if_pos rfl
  have hid : query.valueAt limit sortValue.toJson id.toJson (.comparison ⟨none, "id"⟩) =
      some id.toJson := by
    rw [KeysetQuery.valueAt, if_neg (column_ne_id query).symm, if_pos rfl]
  have hlimit : query.valueAt limit sortValue.toJson id.toJson .limit = some (.number limit) := rfl
  rw [wellBound_iff_refers, h]
  simp [refers_cons, refers_nil, hsort, hid, hlimit]

/-- A number past the parameters refers to nothing. -/
theorem not_wellBound_of_paramIndex (h : query.before.length + 3 ≤ query.paramIndex) :
    ¬ query.WellBound limit sortValue id := by
  intro hbound
  rw [wellBound_iff_refers] at hbound
  obtain ⟨-, v, -, hparam⟩ := hbound (.comparison ⟨none, "id"⟩, query.paramIndex + 1) (by simp)
  have hlength := (List.getElem?_eq_some_iff.mp hparam).1
  simp at hlength
  omega

theorem wellBound_iff : query.WellBound limit sortValue id ↔ query ≠ .activeChallenges := by
  cases query with
  | activeChallenges =>
      have hnot : ¬ KeysetQuery.activeChallenges.WellBound limit sortValue id :=
        not_wellBound_of_paramIndex (Nat.le_refl 3)
      simp [hnot]
  | payouts status =>
      have hbound : (KeysetQuery.payouts status).WellBound limit sortValue id :=
        wellBound_of_paramIndex rfl
      simp [hbound]
  | challengesByBrandId brandId =>
      have hbound : (KeysetQuery.challengesByBrandId brandId).WellBound limit sortValue id :=
        wellBound_of_paramIndex rfl
      simp [hbound]

end

/-! ### The statements are those of the queries -/

/-- The condition that a statement adds. -/
def KeysetStatement.bind (scope : Scope) (st : KeysetStatement) :
    Except ApiError (JoinedColumns → Sql.Cond) :=
  match st.whereExtra with
  | none => .ok fun _ => some true
  | some clause => clause.bind scope st.params

/-- The parameter of the limit, behind the others, does not change the condition. -/
theorem createdAtClause_eq_bind (scope : Scope) {query : KeysetQuery} {first : JsonValue}
    (hbefore : query.before = [first]) (hkey : query.sortKey = "created_at")
    (hindex : query.paramIndex = 2) (limit : Nat) (cursor : Option Cursor) :
    createdAtClause scope query.column first cursor =
      (query.statement limit cursor).bind scope := by
  unfold createdAtClause KeysetQuery.statement
  rw [hkey]
  cases decodeCursorSafe cursor ["created_at", "id"] with
  | none => rfl
  | some values =>
      simp only [hbefore, hindex]
      rfl

theorem getPayouts_statement (db : PayoutsDb) (status : Option Text) (pageSize : Nat)
    (cursor : Option Cursor) :
    getPayouts db status pageSize cursor = (do
      let clause ← ((KeysetQuery.payouts status).statement pageSize cursor).bind payoutsScope
      let matching := db.payouts.filter fun payout =>
        payoutsWhere status payout && Sql.holds (clause (payoutColumns db payout))
      return fullPage pageSize payoutCursor
        ((Sql.orderBy payoutKey (matching.map (payoutDetail db))).take pageSize)) := by
  rw [← createdAtClause_eq_bind payoutsScope rfl rfl rfl]
  rfl

theorem getChallengesByBrandId_statement (db : ChallengesDb) (brandId : Uuid) (limit : Nat)
    (cursor : Option Cursor) :
    getChallengesByBrandId db brandId limit cursor = (do
      let clause ←
        ((KeysetQuery.challengesByBrandId brandId).statement limit cursor).bind challengesScope
      let matching := db.joined.filter fun row =>
        brandWhere brandId row && Sql.holds (clause (challengeColumns row))
      return fullPage limit brandCursor ((Sql.orderBy newestKey matching).take limit)) := by
  rw [← createdAtClause_eq_bind challengesScope rfl rfl rfl]
  rfl

/-! ### Active challenges -/

/-- What PostgreSQL answers to a statement with more placeholders than parameters. -/
def missingParam : ApiError :=
  dbError "bind message supplies fewer parameters than the prepared statement requires" "08P01"

/-- A comparison with the pool, or with a column that both tables may have. -/
def activeComparison (params : List JsonValue) (column : ColumnRef) (param : Nat)
    (op : Option Int → Option Int → Sql.Cond) : Except ApiError (ChallengeRow → Sql.Cond) :=
  if column = ⟨some "c", "pool_amount_stroops"⟩ then do
    let value ← integerParam (params.getD (param - 1) .null)
    return fun row => op (some row.challenge.poolAmountStroops) value
  else do
    let test ← bindComparison challengesScope params column param op
    return fun row => test (challengeColumns row)

/-- `Clause.bind`, for the columns of an active challenge. -/
def Clause.bindActive (params : List JsonValue) :
    Clause → Except ApiError (ChallengeRow → Sql.Cond)
  | .lt column param => activeComparison params column param Sql.lt
  | .gt column param => activeComparison params column param Sql.gt
  | .eq column param => activeComparison params column param Sql.eq
  | .and left right => do
      let left ← left.bindActive params
      let right ← right.bindActive params
      return fun row => Sql.and (left row) (right row)
  | .or left right => do
      let left ← left.bindActive params
      let right ← right.bindActive params
      return fun row => Sql.or (left row) (right row)

/-- The names are resolved first, then the parameters are counted. -/
def KeysetStatement.bindActive (st : KeysetStatement) :
    Except ApiError (ChallengeRow → Sql.Cond) :=
  match st.whereExtra with
  | none => .ok fun _ => some true
  | some clause => do
      let test ← clause.bindActive st.params
      if clause.placeholders.all fun use => use.2 ≤ st.params.length then return test
      throw missingParam

/-- `LIMIT $n`; without a number there is none. -/
def KeysetStatement.limitRows {α : Type} (st : KeysetStatement) (rows : List α) :
    Except ApiError (List α) := do
  match ← integerParam (st.params.getD (st.limitParam - 1) .null) with
  | none => return rows
  | some n => return rows.take n.toNat

/-- The cursor is read off the last row, also of an empty page that is full. -/
def noLastRow : ApiError :=
  ⟨"Cannot read properties of undefined (reading 'pool_amount_stroops')".toList, none, none⟩

def getActiveChallenges (db : ChallengesDb) (limit : Nat) (cursor : Option Cursor) :
    Except ApiError (Page ChallengeRow Cursor) := do
  let st := KeysetQuery.activeChallenges.statement limit cursor
  let clause ← st.bindActive
  let matching := db.joined.filter fun row => isActive row && Sql.holds (clause row)
  let challenges ← st.limitRows (Sql.orderBy poolDescKey matching)
  if challenges.length = limit && challenges.isEmpty then throw noLastRow
  return fullPage limit (fun row => activeCursor .poolDesc row.challenge) challenges

/-- After a first page with a cursor, the next rows of the listing. -/
def SecondPageFollows (db : ChallengesDb) (limit : Nat) : Prop :=
  ∀ first next, getActiveChallenges db limit none = .ok first → first.nextCursor = some next →
    ∃ second, getActiveChallenges db limit (some next) = .ok second ∧
      second.rows = ((activeChallenges db .poolDesc).drop limit).take limit

section
variable (db : ChallengesDb) (limit : Nat)

theorem limitRows_none {α : Type} (query : KeysetQuery) (rows : List α) :
    (query.statement limit none).limitRows rows = .ok (rows.take limit) := by
  simp [KeysetQuery.statement, decodeCursorSafe, KeysetStatement.limitRows, integerParam, bind,
    Except.bind, pure, Except.pure]

/-- The rows of the first page. -/
theorem getActiveChallenges_none :
    getActiveChallenges db limit none =
      if ((activeChallenges db .poolDesc).take limit).length = limit &&
          ((activeChallenges db .poolDesc).take limit).isEmpty then
        .error noLastRow
      else
        .ok (fullPage limit (fun row => activeCursor .poolDesc row.challenge)
          ((activeChallenges db .poolDesc).take limit)) := by
  have hbind : (KeysetQuery.activeChallenges.statement limit none).bindActive =
      .ok fun _ => some true := rfl
  have hrows : Sql.orderBy poolDescKey (db.joined.filter fun row => isActive row && true) =
      activeChallenges db .poolDesc := by
    simp only [Bool.and_true]
    rfl
  simp only [getActiveChallenges, hbind, bind, Except.bind, Sql.holds_some, hrows, limitRows_none]
  split
  · rfl
  · rfl

/-- The first page is the start of the listing. -/
theorem getActiveChallenges_first (hlimit : 0 < limit) :
    getActiveChallenges db limit none =
      .ok (fullPage limit (fun row => activeCursor .poolDesc row.challenge)
        ((activeChallenges db .poolDesc).take limit)) := by
  rw [getActiveChallenges_none, if_neg]
  intro hfull
  rw [Bool.and_eq_true, decide_eq_true_eq, List.isEmpty_iff] at hfull
  rw [hfull.2] at hfull
  exact absurd hfull.1 (Nat.ne_of_lt hlimit)

/-- PostgreSQL does not know which `id` the clause means. -/
theorem getActiveChallenges_cursor (row : Challenge) :
    getActiveChallenges db limit (some (activeCursor .poolDesc row)) = .error ambiguousId := rfl

theorem getActiveChallenges_zero : getActiveChallenges db 0 none = .error noLastRow := by
  rw [getActiveChallenges_none]
  simp

theorem secondPageFollows_iff :
    SecondPageFollows db limit ↔ limit = 0 ∨ (activeChallenges db .poolDesc).length < limit := by
  rcases Nat.eq_zero_or_pos limit with rfl | hlimit
  · simp [SecondPageFollows, getActiveChallenges_zero]
  · constructor
    · intro hfollows
      -- a full first page has a cursor, and the statement with it fails
      by_contra hlength
      obtain ⟨last, hlast⟩ := Keyset.exists_getLast?_take hlimit
        (show limit ≤ (activeChallenges db .poolDesc).length by omega)
      have hfull : ((activeChallenges db .poolDesc).take limit).length = limit := by
        rw [List.length_take]
        omega
      obtain ⟨second, hsecond, -⟩ := hfollows _ (activeCursor .poolDesc last.challenge)
        (getActiveChallenges_first db limit hlimit) (by simp [fullPage, hfull, hlast])
      rw [getActiveChallenges_cursor] at hsecond
      cases hsecond
    · intro hlength first next hfirst hnext
      have hshort : ((activeChallenges db .poolDesc).take limit).length ≠ limit := by
        rw [List.length_take]
        omega
      rw [getActiveChallenges_first db limit hlimit] at hfirst
      cases hfirst
      rw [fullPage, if_neg hshort] at hnext
      cases hnext

end

/-- **When the placeholders of a cursor refer to its values, and when the second page of active
challenges follows the first.** -/
theorem cursor_placeholders_iff (query : KeysetQuery) (limit : Nat) (sortValue id : JsValue)
    (db : ChallengesDb) :
    (query.WellBound limit sortValue id ↔ query ≠ .activeChallenges) ∧
      (SecondPageFollows db limit ↔
        limit = 0 ∨ (activeChallenges db .poolDesc).length < limit) :=
  ⟨wellBound_iff, secondPageFollows_iff db limit⟩

/-- Two active challenges. -/
def twoActive : ChallengesDb where
  challenges := [{ settledChallenge 1 50000000 with status := .active },
    { settledChallenge 2 30000000 with status := .active }]
  ids_nodup := by decide
  brands _ := some ⟨[], none, none, none, 500, none⟩
  tags := []
  sessions := []

/-- With one challenge a page, the clause refers to `$3` and `$4` of three parameters, of which
the third is the limit, and there is no second page. -/
theorem second_active_page_fails :
    KeysetQuery.activeChallenges.statement 1
        (some (activeCursor .poolDesc (settledChallenge 1 50000000))) =
      ⟨some (.or (.lt ⟨some "c", "pool_amount_stroops"⟩ 3)
          (.and (.eq ⟨some "c", "pool_amount_stroops"⟩ 3) (.lt ⟨none, "id"⟩ 4))), 3,
        [.string (.digits 50000000), .string (.uuid 1), .number 1]⟩ ∧
    ¬ KeysetQuery.activeChallenges.WellBound 1 (.string (.digits 50000000)) (.string (.uuid 1)) ∧
    ¬ SecondPageFollows twoActive 1 := by
  refine ⟨rfl, ?_, ?_⟩
  · rw [wellBound_iff]
    exact fun h => h rfl
  · rw [secondPageFollows_iff]
    decide +kernel

end BrandBlitz.Paging
