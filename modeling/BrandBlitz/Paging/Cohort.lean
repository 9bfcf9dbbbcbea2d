import BrandBlitz.Competition.Tables
import BrandBlitz.Lib.Placeholders
import BrandBlitz.Paging.FraudFlags
import BrandBlitz.Paging.Users

/-!
# BrandBlitz.Paging.Cohort

**The cohort builder** (`apps/api/src/db/queries/cohort.ts`): `getCohortUsers` and
`getCohortUsersForExport` put the same query together, each for itself.

* A condition that compares with a parameter has the number of its placeholder. The conditions of
  the `HAVING` are written twice: the second pass reads the operator off the text that the first
  one wrote.
* A statement is rejected if it does not get as many parameters as its highest placeholder says.
* What PostgreSQL reads off a text or makes of a number of days, at the instant of the query, is a
  parameter (`Moment`). All queries are at the same instant.
* A user has one group, with their open and escalated fraud flags: `id` is the primary key.
-/

namespace BrandBlitz.Paging.Cohort

open BrandBlitz.Lib
open BrandBlitz.Lib.Keyset (Page Lists Visited Cut lookAhead)
open BrandBlitz.Lib.Placeholders
open BrandBlitz.Competition (LeagueName)
open BrandBlitz.Paging.Users (UserStatus)
open BrandBlitz.Sessions (dbError)

/-! ### The tables -/

/-- `CHECK (role IN ('player', 'brand', 'admin'))`. -/
inductive Role where
  | player | brand | admin
deriving DecidableEq, Repr

/-- The columns of a user that are selected. -/
structure UserColumns where
  id : Uuid
  email : Text
  displayName : Text
  username : Option Text
  role : Role
  status : UserStatus
  league : Option LeagueName
  totalScore : Int
  totalEarnedUsdc : ℚ
  challengesPlayed : Int
  streak : Int
  lastActiveAt : Option Timestamp
  createdAt : Timestamp
  referralCode : Option Text
deriving DecidableEq

/-- A row of `users`. -/
structure User extends UserColumns where
  deletedAt : Option Timestamp
deriving DecidableEq

/-- What is read of a row of `fraud_flags`. -/
structure FraudFlag where
  userId : Uuid
  status : FlagStatus
deriving DecidableEq, Repr

structure CohortDb where
  users : List User
  /-- `PRIMARY KEY` -/
  ids_nodup : (users.map fun user => user.id).Nodup
  fraudFlags : List FraudFlag

/-- A row of either query. -/
structure CohortUser extends UserColumns where
  fraudFlagCount : Nat
deriving DecidableEq

/-- `COUNT(ff.id)`, of the flags that the join keeps. -/
def CohortDb.fraudFlagCount (db : CohortDb) (user : User) : Nat :=
  db.fraudFlags.countP fun flag =>
    decide (flag.userId = user.id) && [FlagStatus.open, .escalated].contains flag.status

/-- The group of a user. -/
def CohortDb.group (db : CohortDb) (user : User) : CohortUser :=
  { user.toUserColumns with fraudFlagCount := db.fraudFlagCount user }

/-! ### Filters and parameters -/

inductive SignupSource where
  | referral | organic
deriving DecidableEq, Repr

structure CohortFilter where
  signupSource : Option SignupSource
  league : Option LeagueName
  status : Option UserStatus
  minFraudFlags : Option ℚ
  maxFraudFlags : Option ℚ
  minTotalEarnedUsdc : Option ℚ
  activeWithinDays : Option ℚ
  createdAfter : Option Text
  createdBefore : Option Text
deriving DecidableEq

/-- A value that a statement is sent with. -/
inductive Param where
  | text (text : Text)
  | number (x : ℚ)
  | json (value : JsonValue)
deriving DecidableEq

/-- What the database makes of a parameter at the instant of the query. -/
structure Moment where
  /-- a text as a `timestamptz` -/
  readTimestamp : Text → Except ApiError Timestamp
  /-- `NOW() - ($n || ' days')::interval` -/
  daysAgo : ℚ → Except ApiError Timestamp

def typeError : ApiError := dbError "could not determine data type of parameter" "42P18"

def Param.asText : Param → Except ApiError Text
  | .text value => .ok value
  | _ => .error typeError

def Param.asNumeric : Param → Except ApiError ℚ
  | .number x => .ok x
  | _ => .error typeError

def Param.asBigint : Param → Except ApiError Int
  | .number x =>
      if x.den = 1 ∧ -2 ^ 63 ≤ x.num ∧ x.num < 2 ^ 63 then .ok x.num
      else .error (dbError "invalid input syntax for type bigint" "22P02")
  | _ => .error typeError

def Param.asTimestamp (moment : Moment) : Param → Except ApiError (Option Timestamp)
  | .text value => (moment.readTimestamp value).map some
  | .json value => timestampParam value
  | .number _ => .error typeError

def Param.asUuid : Param → Except ApiError (Option Uuid)
  | .json value => uuidParam value
  | _ => .error typeError

/-! ### Conditions -/

/-- What the `WHERE` compares with a parameter. -/
inductive Filtered where
  | league | status | totalEarnedUsdc | lastActiveAt | createdAfter | createdBefore
deriving DecidableEq, Repr

inductive Op where
  | ge | le
deriving DecidableEq, Repr

def Op.text : Op → Text
  | .ge => ">=".toList
  | .le => "<=".toList

/-- What stands at the other side of a placeholder. -/
inductive Compared where
  | filtered (column : Filtered)
  | fraudFlagCount (op : Op)
  | cursorCreatedAt
  | cursorId
  | limit
deriving DecidableEq, Repr

inductive Condition where
  | notDeleted
  | referred
  | organic
  | compares (column : Filtered) (placeholder : Nat)
deriving DecidableEq, Repr

/-- The test of a condition that compares with a value. -/
def Filtered.test (moment : Moment) : Filtered → Param → Except ApiError (User → Sql.Cond)
  | .league, value => do
      let league ← value.asText
      return fun user => Sql.eq (user.league.map LeagueName.text) (some league)
  | .status, value => do
      let status ← value.asText
      return fun user => Sql.eq (some user.status.text) (some status)
  | .totalEarnedUsdc, value => do
      let least ← value.asNumeric
      return fun user => Sql.ge (some user.totalEarnedUsdc) (some least)
  | .lastActiveAt, value => do
      let days ← value.asNumeric
      let since ← moment.daysAgo days
      return fun user => Sql.ge user.lastActiveAt (some since)
  | .createdAfter, value => do
      let after ← value.asTimestamp moment
      return fun user => Sql.ge (some user.createdAt) after
  | .createdBefore, value => do
      let before ← value.asTimestamp moment
      return fun user => Sql.ge before (some user.createdAt)

/-- The test of the `HAVING`. -/
def Op.test (op : Op) (value : Param) : Except ApiError (CohortUser → Sql.Cond) := do
  let bound ← value.asBigint
  return fun user =>
    match op with
    | .ge => Sql.ge (some (user.fraudFlagCount : Int)) (some bound)
    | .le => Sql.ge (some bound) (some (user.fraudFlagCount : Int))

/-! ### `buildCohortWhere` -/

structure Where where
  conditions : List Condition
  params : List Param
  idx : Nat
deriving DecidableEq

/-- One of the optional conditions with a parameter. -/
def Where.add (column : Filtered) (value : Option Param) (w : Where) : Where :=
  match value with
  | none => w
  | some value =>
      { conditions := w.conditions ++ [.compares column w.idx]
        params := w.params ++ [value]
        idx := w.idx + 1 }

def signupCondition : Option SignupSource → List Condition
  | some .referral => [.referred]
  | some .organic => [.organic]
  | none => []

/-- The value that a column is compared with, if it is. -/
def CohortFilter.value (filter : CohortFilter) : Filtered → Option Param
  | .league => filter.league.map (.text ·.text)
  | .status => filter.status.map (.text ·.text)
  | .totalEarnedUsdc => filter.minTotalEarnedUsdc.map .number
  | .lastActiveAt => filter.activeWithinDays.map .number
  | .createdAfter => (filter.createdAfter.filter (· ≠ [])).map .text
  | .createdBefore => (filter.createdBefore.filter (· ≠ [])).map .text

def buildCohortWhere (filter : CohortFilter) (startParamIdx : Nat) : Where :=
  let add (column : Filtered) := Where.add column (filter.value column)
  let start : Where :=
    { conditions := .notDeleted :: signupCondition filter.signupSource
      params := []
      idx := startParamIdx }
  add .createdBefore (add .createdAfter (add .lastActiveAt (add .totalEarnedUsdc
    (add .status (add .league start)))))

/-! ### The `HAVING` -/

/-- `COUNT(ff.id) >= $n`. -/
def havingText (op : Op) (placeholder : Nat) : Text :=
  "COUNT(ff.id) ".toList ++ op.text ++ " $".toList ++ Nat.toDigits 10 placeholder

/-- `clause.match(/>= |<= /)`, or else `>=`. -/
def opMatch : Text → Op
  | [] => .ge
  | c :: rest =>
      if ">= ".toList.isPrefixOf (c :: rest) then .ge
      else if "<= ".toList.isPrefixOf (c :: rest) then .le
      else opMatch rest

def CohortFilter.bound (filter : CohortFilter) : Op → Option Param
  | .ge => filter.minFraudFlags.map .number
  | .le => filter.maxFraudFlags.map .number

structure Having where
  clauses : List Text
  params : List Param
deriving DecidableEq

/-- The parameter is pushed first, so the clause has its number. -/
def Having.add (pIdx : Nat) (op : Op) (value : Option Param) (h : Having) : Having :=
  match value with
  | none => h
  | some value =>
      let params := h.params ++ [value]
      { clauses := h.clauses ++ [havingText op (pIdx + params.length - 1)]
        params }

def havingClauses (filter : CohortFilter) (pIdx : Nat) : Having :=
  ((Having.mk [] []).add pIdx .ge (filter.bound .ge)).add pIdx .le (filter.bound .le)

/-- The second pass: `COUNT(ff.id) ${op} $${pIdx + i}`. -/
def reindex (pIdx : Nat) (clauses : List Text) : List (Op × Nat) :=
  clauses.zipIdx.map fun (clause, i) => (opMatch clause, pIdx + i)

/-! ### Statements -/

structure Statement where
  conditions : List Condition
  /-- the first placeholder of the cursor's condition, which has the next one too -/
  cursor : Option Nat
  having : List (Op × Nat)
  limit : Option Nat
  params : List Param
deriving DecidableEq

def Condition.use : Condition → Option (Compared × Nat)
  | .compares column n => some (.filtered column, n)
  | _ => none

/-- Every placeholder of the text, and what stands at its other side. -/
def Statement.uses (st : Statement) : List (Compared × Nat) :=
  st.conditions.filterMap Condition.use ++
  (st.cursor.toList.flatMap fun n =>
    [(.cursorCreatedAt, n), (.cursorCreatedAt, n), (.cursorId, n + 1)]) ++
  st.having.map (fun (op, n) => (.fraudFlagCount op, n)) ++
  st.limit.toList.map fun n => (.limit, n)

def COHORT_MAX_LIMIT : Nat := 500

def EXPORT_ROW_LIMIT : Nat := 10000

/-- The number of users, in `getCohortUsers`. -/
def countStatement (filter : CohortFilter) : Statement :=
  let w := buildCohortWhere filter 1
  let pIdx := w.idx
  let h := havingClauses filter pIdx
  { conditions := w.conditions
    cursor := none
    having := reindex pIdx h.clauses
    limit := none
    params := w.params ++ h.params }

/-- The rows, in `getCohortUsers`. -/
def pageStatement (filter : CohortFilter) (limit : Nat) (cursorValues : Option Cursor) :
    Statement :=
  let w := buildCohortWhere filter 1
  let h := havingClauses filter w.idx
  let allParams := w.params ++ h.params
  let pIdx := w.idx + h.params.length
  match cursorValues with
  | none =>
      { conditions := w.conditions
        cursor := none
        having := reindex w.idx h.clauses
        limit := some pIdx
        params := allParams ++ [.number (limit + 1 : Nat)] }
  | some values =>
      { conditions := w.conditions
        cursor := some pIdx
        having := reindex w.idx h.clauses
        limit := some (pIdx + 2)
        params := allParams ++ [.json (values.get "created_at"), .json (values.get "id")] ++
          [.number (limit + 1 : Nat)] }

/-- The rows, in `getCohortUsersForExport`. -/
def exportStatement (filter : CohortFilter) : Statement :=
  let w := buildCohortWhere filter 1
  let h := havingClauses filter w.idx
  let pIdx := w.idx + h.params.length
  { conditions := w.conditions
    cursor := none
    having := reindex w.idx h.clauses
    limit := some pIdx
    params := w.params ++ h.params ++ [.number EXPORT_ROW_LIMIT] }

/-! ### What a statement returns -/

def bindParams (st : Statement) : Except ApiError (Nat → Param) :=
  if st.params.length = (st.uses.map Prod.snd).foldl max 0 then
    .ok (bindingOf (.json .null) st.params)
  else .error (dbError "bind message supplies a wrong number of parameters" "08P01")

def Condition.test (moment : Moment) (binding : Nat → Param) :
    Condition → Except ApiError (User → Sql.Cond)
  | .notDeleted => .ok fun user => Sql.isNull user.deletedAt
  | .referred => .ok fun user => Sql.isNotNull user.referralCode
  | .organic => .ok fun user => Sql.isNull user.referralCode
  | .compares column n => column.test moment (binding n)

/-- `AND (u.created_at < $p OR (u.created_at = $p AND u.id < $q))`. -/
def cursorTest (moment : Moment) (binding : Nat → Param) :
    Option Nat → Except ApiError (User → Sql.Cond)
  | none => .ok fun _ => some true
  | some p => do
      let createdAt ← (binding p).asTimestamp moment
      let id ← (binding (p + 1)).asUuid
      return fun user => Sql.or (Sql.lt (some user.createdAt) createdAt)
        (Sql.and (Sql.eq (some user.createdAt) createdAt) (Sql.lt (some user.id) id))

/-- The groups that the statement keeps. -/
def Statement.groups (st : Statement) (moment : Moment) (db : CohortDb) :
    Except ApiError (List CohortUser) := do
  let binding ← bindParams st
  let tests ← st.conditions.mapM (·.test moment binding)
  let having ← st.having.mapM fun (op, n) => op.test (binding n)
  let beyond ← cursorTest moment binding st.cursor
  let kept := db.users.filter fun user =>
    Sql.holds (Sql.and (tests.foldr (fun test => Sql.and (test user)) (some true)) (beyond user))
  return (kept.map db.group).filter fun user =>
    Sql.holds (having.foldr (fun test => Sql.and (test user)) (some true))

/-- `u.created_at DESC, u.id DESC`. -/
def cohortKey (user : CohortUser) : Intᵒᵈ ×ₗ Natᵒᵈ :=
  toLex (OrderDual.toDual user.createdAt, OrderDual.toDual user.id)

/-- With `ORDER BY` and `LIMIT`. -/
def Statement.rows (st : Statement) (moment : Moment) (db : CohortDb) :
    Except ApiError (List CohortUser) := do
  let groups ← st.groups moment db
  let binding ← bindParams st
  match st.limit with
  | none => return Sql.orderBy cohortKey groups
  | some n =>
      let limit ← (binding n).asBigint
      return (Sql.orderBy cohortKey groups).take limit.toNat

/-! ### The queries -/

def cohortCursor (user : CohortUser) : Cursor :=
  encodeCursor [("created_at", jsTimestamp (some user.createdAt)), ("id", .string (.uuid user.id))]

structure CohortPage extends Page CohortUser Cursor where
  total : Nat

def getCohortUsers (moment : Moment) (db : CohortDb) (filter : CohortFilter) (limit : Nat)
    (cursor : Option Cursor) : Except ApiError CohortPage := do
  let limit := min limit COHORT_MAX_LIMIT
  let counted ← (countStatement filter).groups moment db
  let cursorValues := decodeCursorSafe cursor ["created_at", "id"]
  let rows ← (pageStatement filter limit cursorValues).rows moment db
  return { lookAhead limit cohortCursor rows with total := counted.length }

def getCohortUsersForExport (moment : Moment) (db : CohortDb) (filter : CohortFilter) :
    Except ApiError (List CohortUser) :=
  (exportStatement filter).rows moment db

end BrandBlitz.Paging.Cohort
