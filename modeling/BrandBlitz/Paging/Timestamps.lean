import BrandBlitz.Paging.Leaderboard
import BrandBlitz.Paging.Challenges

/-!
# BrandBlitz.Paging.Timestamps

**Cursors with timestamps of microseconds** in `getLeaderboardForCsvExport`, `getPayouts` and
`getChallengesByBrandId`.

* The export orders by rising time, so the cursor of a row whose time has a fraction of a
  millisecond lies before the row: the next page has the row again.
* The other two build their condition with `buildCursorWhereSimple`
  (`apps/api/src/db/pagination.ts`), which names the column of the id without its table. Both
  queries join two tables that have an `id`, so PostgreSQL rejects every query with a cursor.
  The columns of the tables are those that the queries and their tests use.
-/

namespace BrandBlitz.Paging

open BrandBlitz.Lib
open BrandBlitz.Lib.Keyset (Page Lists Cut fullPage)
open BrandBlitz.Sessions (dbError)
open BrandBlitz.Payout (stroopsToUsdc)

/-! ### The export -/

/-- A row of the export. -/
structure CsvRow where
  session : SessionRow
  user : User
  payoutAmountUsdc : Text
deriving DecidableEq, Repr

/-- `LEFT JOIN payouts p ON p.challenge_id = gs.challenge_id AND p.user_id = gs.user_id`. -/
def csvRow (db : LeaderboardDb) (row : LeaderboardSession) : CsvRow where
  session := row.session
  user := row.user
  payoutAmountUsdc :=
    match row.session.userId.bind (db.payouts row.session.challengeId) with
    | some amount => stroopsToUsdc amount
    | none => ['0']

def getLeaderboardForCsvExport (db : LeaderboardDb) (challengeId : Uuid) (limit : Nat)
    (cursor : Option Cursor) : Except ApiError (Page CsvRow Cursor) := do
  let clause ← sessionCursorClause Sql.lt cursor
  let matching := (db.joined.filter fun row =>
    ranked challengeId row && Sql.holds (clause row.session)).map (csvRow db)
  return fullPage limit (fun row => sessionCursor row.session)
    ((Sql.orderBy (fun row => scoreKey row.session) matching).take limit)

/-- The query without pages. -/
def csvExport (db : LeaderboardDb) (challengeId : Uuid) : List CsvRow :=
  Sql.orderBy (fun row => scoreKey row.session)
    ((db.joined.filter (ranked challengeId)).map (csvRow db))

section
variable (db : LeaderboardDb) (challengeId : Uuid)

theorem csv_ids_nodup : (((db.joined.filter (ranked challengeId)).map (csvRow db)).map
    fun row => row.session.id).Nodup := by
  rw [List.map_map]
  exact db.joined_ids_nodup.sublist (List.filter_sublist.map _)

theorem csvExport_pairwise :
    (csvExport db challengeId).Pairwise fun a b => scoreKey a.session < scoreKey b.session :=
  Sql.orderBy_pairwise_lt (scoreKey_unique (csv_ids_nodup db challengeId))

theorem csvExport_nodup : (csvExport db challengeId).Nodup :=
  (scoreKey_unique (csv_ids_nodup db challengeId)).orderBy_nodup

/-- One page, in terms of the unpaged query. -/
theorem getLeaderboardForCsvExport_eq (limit : Nat) (b : Option CsvRow) :
    getLeaderboardForCsvExport db challengeId limit (b.map fun row => sessionCursor row.session) =
      .ok (fullPage limit (fun row => sessionCursor row.session)
        ((Keyset.window (csvExport db challengeId)
          (fun b r => afterRow Sql.lt b.session r.session) b).take limit)) := by
  have hunique := scoreKey_unique (csv_ids_nodup db challengeId)
  cases b with
  | none =>
      simp only [getLeaderboardForCsvExport, sessionCursorClause, decodeCursorSafe,
        Option.map_none]
      simp only [bind, Except.bind, pure, Except.pure, Sql.holds_some, Bool.and_true]
      rfl
  | some b =>
      simp only [getLeaderboardForCsvExport, Option.map_some, sessionCursorClause_cursor]
      simp only [bind, Except.bind, pure, Except.pure]
      simp only [Keyset.window, csvExport, ← Sql.orderBy_filter hunique, List.filter_map,
        List.filter_filter]
      simp only [Function.comp_def, csvRow, afterRow, Bool.and_comm]

end

section
variable {rows : List CsvRow} {k n : Nat}

/-- A row whose time has a fraction of a millisecond is admitted by its own cursor. -/
theorem afterRow_self {b : SessionRow} {t : Timestamp} (ht : b.completedAt = some t)
    (hms : ¬ WholeMs t) : afterRow Sql.lt b b = true := by
  have hlt := clip_lt_of_not_wholeMs hms
  simp only [afterRow, keysetClause, Sql.holds_or, Sql.holds_and, Bool.or_eq_true,
    Bool.and_eq_true, Sql.holds_eq_some, ht, Option.map_some, Sql.holds_gt_some]
  exact .inr ⟨trivial, .inl hlt⟩

/-- The timestamp of a row comes back from a cursor as it was. -/
theorem clip_iff_wholeMs {t : Option Timestamp} : t.map clip = t ↔ ∀ x ∈ t, WholeMs x := by
  refine ⟨fun h x hx => ?_, clip_of_wholeMs⟩
  rw [Option.mem_def.mp hx, Option.map_some] at h
  exact clip_eq_self_iff.mp (Option.some.inj h)

/-- The cuts of the export. -/
theorem cut_csv_iff (hrows : rows.Pairwise fun a b => scoreKey a.session < scoreKey b.session) :
    Cut rows (fun b r => afterRow Sql.lt b.session r.session) k n ↔
      ∀ b ∈ (rows.take k).getLast?, (∀ t ∈ b.session.completedAt, WholeMs t) ∧
        ∀ r ∈ (rows.drop k).take n,
          r.session.totalScore = b.session.totalScore → r.session.completedAt.isSome := by
  constructor
  · intro hcut
    have hms : ∀ b ∈ (rows.take k).getLast?, ∀ t ∈ b.session.completedAt, WholeMs t := by
      intro b hb t ht
      by_contra hno
      have hself := hcut.behind b hb b (List.mem_of_getLast? hb)
      rw [afterRow_self ht hno] at hself
      cases hself
    have hscore := (cut_score_iff hrows fun b hb => clip_iff_wholeMs.mpr (hms b hb)).mp hcut
    exact fun b hb => ⟨hms b hb, hscore b hb⟩
  · intro h
    exact (cut_score_iff hrows fun b hb => clip_iff_wholeMs.mpr (h b hb).1).mpr
      fun b hb => (h b hb).2

/-- A cursor admits lower scores, and of its own score the timed rows. -/
theorem score_of_afterRow {b r : SessionRow} (h : afterRow Sql.lt b r = true) :
    r.totalScore < b.totalScore ∨ r.totalScore = b.totalScore ∧ r.completedAt.isSome := by
  rw [afterRow, keysetClause, Sql.holds_or, Sql.holds_and, Bool.or_eq_true, Bool.and_eq_true] at h
  rcases h with hlt | ⟨heq, htime⟩
  · exact .inl ((Sql.holds_lt_some _ _).mp hlt)
  · refine .inr ⟨(Sql.holds_eq_some _ _).mp heq, ?_⟩
    rw [Sql.holds_or, Sql.holds_and, Bool.or_eq_true, Bool.and_eq_true, Sql.holds_gt,
      Sql.holds_eq] at htime
    rcases htime with ⟨u, _, hu, -⟩ | ⟨⟨u, hu, -⟩, -⟩
    · simp [hu]
    · simp [hu]

/-- A row that is not timed never comes after a cursor with its score. -/
theorem untimed_never_listed {limit : Nat}
    {fetch : Option Cursor → Except ApiError (Page CsvRow Cursor)}
    (hfetch : ∀ b : Option CsvRow, fetch (b.map fun row => sessionCursor row.session) =
      .ok (fullPage limit (fun row => sessionCursor row.session)
        ((Keyset.window rows (fun b r => afterRow Sql.lt b.session r.session) b).take limit)))
    {b r : CsvRow} (hscore : b.session.totalScore = r.session.totalScore)
    (hr : r.session.completedAt = none) {out : List CsvRow}
    (h : Keyset.ListsFrom fetch (some (sessionCursor b.session)) out) : r ∉ out := by
  -- what a page shows has a lower score, or the score of `r` and a time
  have hpage : ∀ b x : CsvRow, b.session.totalScore ≤ r.session.totalScore →
      afterRow Sql.lt b.session x.session = true →
      x.session.totalScore ≤ r.session.totalScore ∧
        (x.session.totalScore = r.session.totalScore → x.session.completedAt.isSome) := by
    intro b x hb hx
    rcases score_of_afterRow hx with hlt | ⟨heq, hsome⟩
    · exact ⟨by omega, fun h => by omega⟩
    · exact ⟨by omega, fun _ => hsome⟩
  intro hmem
  have hlisted := Keyset.ListsFrom.forall
    (P := fun x => x.session.totalScore ≤ r.session.totalScore)
    (fun b => hfetch (some b))
    (fun b hb x hx => hpage b x hb (List.mem_filter.mp (List.mem_of_mem_take hx)).2)
    (Int.le_of_eq hscore) h r hmem
  rw [hr] at hlisted
  exact absurd (hlisted rfl) (by simp)

/-- What the export's cursors skip they never list. -/
theorem skipped_never_listed {limit : Nat}
    {fetch : Option Cursor → Except ApiError (Page CsvRow Cursor)}
    (hrows : rows.Pairwise fun a b => scoreKey a.session < scoreKey b.session)
    (hfetch : ∀ b : Option CsvRow, fetch (b.map fun row => sessionCursor row.session) =
      .ok (fullPage limit (fun row => sessionCursor row.session)
        ((Keyset.window rows (fun b r => afterRow Sql.lt b.session r.session) b).take limit)))
    {b r : CsvRow} {out : List CsvRow} (hb : (rows.take k).getLast? = some b)
    (hself : afterRow Sql.lt b.session b.session = false) (hr : r ∈ rows.drop k)
    (hskip : afterRow Sql.lt b.session r.session = false)
    (h : Keyset.ListsFrom fetch (some (sessionCursor b.session)) out) : r ∉ out := by
  have hms : ∀ t ∈ b.session.completedAt, WholeMs t := by
    intro t ht
    by_contra hno
    rw [afterRow_self ht hno] at hself
    cases hself
  have hlt := Keyset.getLast_rel_of_mem_drop hrows hb hr
  have hnot : ¬ (r.session.totalScore = b.session.totalScore → r.session.completedAt.isSome) := by
    rw [← afterRow_lt_iff_of_lt (clip_iff_wholeMs.mpr hms) hlt, hskip]
    decide
  rw [Classical.not_imp, Option.not_isSome_iff_eq_none] at hnot
  exact untimed_never_listed hfetch hnot.1.symm hnot.2 h

end

/-- What it takes for the pages of the export to be the export: at the end of every full page,
the last time has whole milliseconds, and no row of the next page has the same score and is not
timed. -/
def CsvPagesAgree (n : Nat) (rows : List CsvRow) : Prop :=
  ∀ j, j * n ≤ rows.length → ∀ b ∈ (rows.take (j * n)).getLast?,
    (∀ t ∈ b.session.completedAt, WholeMs t) ∧
    ∀ r ∈ (rows.drop (j * n)).take n,
      r.session.totalScore = b.session.totalScore → r.session.completedAt.isSome

theorem getLeaderboardForCsvExport_lists_iff (db : LeaderboardDb) (challengeId : Uuid)
    (limit : Nat) (hlimit : 0 < limit) :
    (∃ rows, Lists (getLeaderboardForCsvExport db challengeId limit) rows ∧
      rows.Perm (csvExport db challengeId)) ↔
      CsvPagesAgree limit (csvExport db challengeId) := by
  have hrows := csvExport_pairwise db challengeId
  have hnodup := csvExport_nodup db challengeId
  have hfetch := getLeaderboardForCsvExport_eq db challengeId limit
  rw [Keyset.fullPage_perm_iff hnodup hlimit hfetch fun k b r out =>
      skipped_never_listed hrows hfetch,
    Keyset.fullPage_lists_iff hnodup hlimit hfetch]
  simp only [cut_csv_iff hrows]
  rfl

/-! ### Clauses from text -/

/-- A column, with the alias of its table if it has one. -/
structure ColumnRef where
  table : Option String
  name : String
deriving DecidableEq, Repr

/-- A clause as it is written, with numbered parameters. -/
inductive Clause where
  | lt (column : ColumnRef) (param : Nat)
  | gt (column : ColumnRef) (param : Nat)
  | eq (column : ColumnRef) (param : Nat)
  | and (left right : Clause)
  | or (left right : Clause)
deriving DecidableEq, Repr

/-- The clause and its parameters. -/
def buildCursorWhereSimple (column : ColumnRef) (direction : Direction)
    (cursorValue idValue : JsonValue) (paramIndex : Nat) : Clause × List JsonValue :=
  let dir := match direction with
    | .desc => Clause.lt
    | .asc => Clause.gt
  (.or (dir column paramIndex)
    (.and (.eq column paramIndex) (dir ⟨none, "id"⟩ (paramIndex + 1))), [cursorValue, idValue])

inductive ColumnType where
  | uuid | timestamptz
deriving DecidableEq, Repr

/-- The tables of a `FROM`, by alias, with the columns that a cursor can be compared with. -/
abbrev Scope := List (String × List (String × ColumnType))

/-- The table and the type of a column. -/
def ColumnRef.resolve (scope : Scope) (column : ColumnRef) :
    Except ApiError (String × ColumnType) :=
  let tables := scope.filter fun (table, columns) =>
    column.table.all (· = table) && (columns.lookup column.name).isSome
  match tables with
  | [] => .error (dbError ("column " ++ column.name ++ " does not exist") "42703")
  | [(table, columns)] => .ok (table, (columns.lookup column.name).getD .uuid)
  | _ => .error (dbError ("column reference \"" ++ column.name ++ "\" is ambiguous") "42702")

/-- The columns of one row of the join. -/
structure JoinedColumns where
  uuids : String → String → Option Uuid
  timestamps : String → String → Option Timestamp

/-- One comparison, of the type of its column. -/
def bindComparison (scope : Scope) (params : List JsonValue) (column : ColumnRef) (param : Nat)
    (op : Option Int → Option Int → Sql.Cond) : Except ApiError (JoinedColumns → Sql.Cond) := do
  let (table, columnType) ← column.resolve scope
  let value := params.getD (param - 1) .null
  match columnType with
  | .uuid => do
      let id ← uuidParam value
      return fun row => op ((row.uuids table column.name).map Int.ofNat) (id.map Int.ofNat)
  | .timestamptz => do
      let t ← timestampParam value
      return fun row => op (row.timestamps table column.name) t

/-- PostgreSQL resolves the columns and reads the parameters before it looks at a row. -/
def Clause.bind (scope : Scope) (params : List JsonValue) :
    Clause → Except ApiError (JoinedColumns → Sql.Cond)
  | .lt column param => bindComparison scope params column param Sql.lt
  | .gt column param => bindComparison scope params column param Sql.gt
  | .eq column param => bindComparison scope params column param Sql.eq
  | .and left right => do
      let left ← left.bind scope params
      let right ← right.bind scope params
      return fun row => Sql.and (left row) (right row)
  | .or left right => do
      let left ← left.bind scope params
      let right ← right.bind scope params
      return fun row => Sql.or (left row) (right row)

/-- The clause that a cursor adds, after the first parameter. -/
def createdAtClause (scope : Scope) (column : ColumnRef) (first : JsonValue)
    (cursor : Option Cursor) : Except ApiError (JoinedColumns → Sql.Cond) :=
  match decodeCursorSafe cursor ["created_at", "id"] with
  | none => .ok fun _ => some true
  | some values =>
      let (clause, cursorParams) := buildCursorWhereSimple column .desc
        (values.get "created_at") (values.get "id") 2
      clause.bind scope (first :: cursorParams)

/-- The cursor of a row. -/
def createdAtCursor (createdAt : Timestamp) (id : Uuid) : Cursor :=
  encodeCursor [("created_at", jsTimestamp (some createdAt)), ("id", .string (.uuid id))]

/-! ### Payouts -/

/-- A row of `payouts`. -/
structure PayoutRow where
  id : Uuid
  challengeId : Uuid
  userId : Option Uuid
  stellarAddress : Text
  amountStroops : Nat
  txHash : Option Text
  status : Text
  errorMessage : Text
  createdAt : Timestamp
deriving DecidableEq, Repr

/-- The names in a row of `users`, and when it was created. -/
structure Payee where
  username : Option Text
  displayName : Option Text
  createdAt : Timestamp
deriving DecidableEq, Repr

structure PayoutsDb where
  payouts : List PayoutRow
  /-- `PRIMARY KEY` -/
  ids_nodup : (payouts.map PayoutRow.id).Nodup
  /-- `users`, by id -/
  users : Uuid → Option Payee

/-- A row of `payouts p LEFT JOIN users u ON p.user_id = u.id`. -/
structure PayoutDetail where
  payout : PayoutRow
  username : Text
deriving DecidableEq, Repr

def PayoutsDb.payee (db : PayoutsDb) (payout : PayoutRow) : Option Payee :=
  payout.userId.bind db.users

/-- `COALESCE(u.username, u.display_name, 'Unknown')`. -/
def payoutDetail (db : PayoutsDb) (payout : PayoutRow) : PayoutDetail where
  payout := payout
  username := (((db.payee payout).bind Payee.username) <|>
    ((db.payee payout).bind Payee.displayName)).getD "Unknown".toList

def payoutsScope : Scope :=
  [("p", [("id", .uuid), ("created_at", .timestamptz)]),
    ("u", [("id", .uuid), ("created_at", .timestamptz)])]

/-- The columns of a payout and its user. -/
def payoutColumns (db : PayoutsDb) (payout : PayoutRow) : JoinedColumns where
  uuids table _ := if table = "p" then some payout.id
    else (db.payee payout).bind fun _ => payout.userId
  timestamps table _ := if table = "p" then some payout.createdAt
    else (db.payee payout).map Payee.createdAt

/-- `opts.status && opts.status !== "all" ? opts.status : null`. -/
def statusParam (status : Option Text) : Option Text :=
  status.filter fun status => !status.isEmpty && status ≠ "all".toList

/-- `$1::text IS NULL OR p.status = $1`. -/
def payoutsWhere (status : Option Text) (payout : PayoutRow) : Bool :=
  (statusParam status).all fun status => payout.status = status

/-- `p.created_at DESC, p.id DESC`. -/
def payoutKey (detail : PayoutDetail) : Intᵒᵈ ×ₗ Natᵒᵈ :=
  toLex (OrderDual.toDual detail.payout.createdAt, OrderDual.toDual detail.payout.id)

def payoutCursor (detail : PayoutDetail) : Cursor :=
  createdAtCursor detail.payout.createdAt detail.payout.id

def getPayouts (db : PayoutsDb) (status : Option Text) (pageSize : Nat) (cursor : Option Cursor) :
    Except ApiError (Page PayoutDetail Cursor) := do
  let first := match statusParam status with
    | some status => .string (.plain status)
    | none => .null
  let clause ← createdAtClause payoutsScope ⟨some "p", "created_at"⟩ first cursor
  let matching := db.payouts.filter fun payout =>
    payoutsWhere status payout && Sql.holds (clause (payoutColumns db payout))
  return fullPage pageSize payoutCursor
    ((Sql.orderBy payoutKey (matching.map (payoutDetail db))).take pageSize)

/-- The query without pages. -/
def payoutDetails (db : PayoutsDb) (status : Option Text) : List PayoutDetail :=
  Sql.orderBy payoutKey ((db.payouts.filter (payoutsWhere status)).map (payoutDetail db))

/-! ### The challenges of a brand -/

def challengesScope : Scope :=
  [("c", [("id", .uuid), ("created_at", .timestamptz)]),
    ("b", [("id", .uuid), ("created_at", .timestamptz)])]

/-- The columns of a challenge and its brand. -/
def challengeColumns (row : ChallengeRow) : JoinedColumns where
  uuids table _ := some (if table = "c" then row.challenge.id else row.challenge.brandId)
  timestamps table _ := some (if table = "c" then row.challenge.createdAt else row.brand.createdAt)

def brandWhere (brandId : Uuid) (row : ChallengeRow) : Bool :=
  row.challenge.brandId = brandId && row.challenge.deletedAt.isNone

def brandCursor (row : ChallengeRow) : Cursor :=
  createdAtCursor row.challenge.createdAt row.challenge.id

def getChallengesByBrandId (db : ChallengesDb) (brandId : Uuid) (limit : Nat)
    (cursor : Option Cursor) : Except ApiError (Page ChallengeRow Cursor) := do
  let clause ← createdAtClause challengesScope ⟨some "c", "created_at"⟩
    (.string (.uuid brandId)) cursor
  let matching := db.joined.filter fun row =>
    brandWhere brandId row && Sql.holds (clause (challengeColumns row))
  return fullPage limit brandCursor ((Sql.orderBy newestKey matching).take limit)

/-- The query without pages. -/
def brandChallenges (db : ChallengesDb) (brandId : Uuid) : List ChallengeRow :=
  Sql.orderBy newestKey (db.joined.filter (brandWhere brandId))

/-! ### When the pages are the listings -/

/-- What PostgreSQL answers to a clause with `id`. -/
def ambiguousId : ApiError := dbError "column reference \"id\" is ambiguous" "42702"

theorem createdAtClause_payouts (first : JsonValue) (createdAt : Timestamp) (id : Uuid) :
    createdAtClause payoutsScope ⟨some "p", "created_at"⟩ first
      (some (createdAtCursor createdAt id)) = .error ambiguousId := rfl

theorem createdAtClause_challenges (first : JsonValue) (createdAt : Timestamp) (id : Uuid) :
    createdAtClause challengesScope ⟨some "c", "created_at"⟩ first
      (some (createdAtCursor createdAt id)) = .error ambiguousId := rfl

theorem getPayouts_lists_iff (db : PayoutsDb) (status : Option Text) (pageSize : Nat)
    (hpageSize : 0 < pageSize) :
    (∃ rows, Lists (getPayouts db status pageSize) rows ∧
      rows.Perm (payoutDetails db status)) ↔
      (payoutDetails db status).length < pageSize := by
  have hfirst : getPayouts db status pageSize none =
      .ok (fullPage pageSize payoutCursor ((payoutDetails db status).take pageSize)) := by
    simp only [getPayouts, createdAtClause, decodeCursorSafe, bind, Except.bind, pure,
      Except.pure, Sql.holds_some, Bool.and_true]
    rfl
  have hnext : ∀ b, getPayouts db status pageSize (some (payoutCursor b)) =
      .error ambiguousId := by
    intro b
    simp only [getPayouts, payoutCursor, createdAtClause_payouts, bind, Except.bind]
  exact Keyset.firstPage_lists_iff hpageSize hfirst hnext

theorem getChallengesByBrandId_lists_iff (db : ChallengesDb) (brandId : Uuid) (limit : Nat)
    (hlimit : 0 < limit) :
    (∃ rows, Lists (getChallengesByBrandId db brandId limit) rows ∧
      rows.Perm (brandChallenges db brandId)) ↔
      (brandChallenges db brandId).length < limit := by
  have hfirst : getChallengesByBrandId db brandId limit none =
      .ok (fullPage limit brandCursor ((brandChallenges db brandId).take limit)) := by
    simp only [getChallengesByBrandId, createdAtClause, decodeCursorSafe, bind, Except.bind, pure,
      Except.pure, Sql.holds_some, Bool.and_true]
    rfl
  have hnext : ∀ b, getChallengesByBrandId db brandId limit (some (brandCursor b)) =
      .error ambiguousId := by
    intro b
    simp only [getChallengesByBrandId, brandCursor, createdAtClause_challenges, bind, Except.bind]
  exact Keyset.firstPage_lists_iff hlimit hfirst hnext

/-- **When following cursors with timestamps returns every row once.** -/
theorem timestampCursors_list_iff (leaderboardDb : LeaderboardDb) (challengeId : Uuid)
    (payoutsDb : PayoutsDb) (status : Option Text) (challengesDb : ChallengesDb) (brandId : Uuid)
    (pageSize : Nat) (hpageSize : 0 < pageSize) :
    ((∃ rows, Lists (getLeaderboardForCsvExport leaderboardDb challengeId pageSize) rows ∧
        rows.Perm (csvExport leaderboardDb challengeId)) ↔
      CsvPagesAgree pageSize (csvExport leaderboardDb challengeId)) ∧
    ((∃ rows, Lists (getPayouts payoutsDb status pageSize) rows ∧
        rows.Perm (payoutDetails payoutsDb status)) ↔
      (payoutDetails payoutsDb status).length < pageSize) ∧
    ((∃ rows, Lists (getChallengesByBrandId challengesDb brandId pageSize) rows ∧
        rows.Perm (brandChallenges challengesDb brandId)) ↔
      (brandChallenges challengesDb brandId).length < pageSize) :=
  ⟨getLeaderboardForCsvExport_lists_iff leaderboardDb challengeId pageSize hpageSize,
    getPayouts_lists_iff payoutsDb status pageSize hpageSize,
    getChallengesByBrandId_lists_iff challengesDb brandId pageSize hpageSize⟩

/-- One payout, of 5 USDC. -/
def onePayout : PayoutsDb where
  payouts := [⟨1, 7, some 10, [], 50000000, none, [], [], 1000⟩]
  ids_nodup := by decide
  users _ := none

/-- One player, who completed challenge 7 at half a millisecond. -/
def halfMillisecond : LeaderboardDb where
  sessions := [⟨1, some 10, 7, .completed, false, false, none, 300, some 5500, 1000⟩]
  ids_nodup := by decide
  users _ := some ⟨[], [], [], none, [], none, none, none⟩
  userBlocks := []
  payouts _ _ := none

/-- Three payouts, of 5 USDC each. -/
def threePayouts : PayoutsDb where
  payouts :=
    [⟨1, 7, some 10, [], 50000000, none, [], [], 1000⟩,
      ⟨2, 7, some 11, [], 50000000, none, [], [], 1000⟩,
      ⟨3, 7, some 12, [], 50000000, none, [], [], 2000⟩]
  ids_nodup := by decide
  users _ := none

/-- Four players, who completed challenge 7 in whole milliseconds, or have no time. -/
def fourPlayers : LeaderboardDb where
  sessions :=
    [⟨1, some 10, 7, .completed, false, false, none, 300, some 5000, 1000⟩,
      ⟨2, some 11, 7, .completed, false, false, none, 450, some 9000, 1000⟩,
      ⟨3, some 12, 7, .completed, false, false, none, 300, some 7000, 2000⟩,
      ⟨4, some 13, 7, .completed, false, false, none, 120, none, 2000⟩]
  ids_nodup := by decide
  users _ := some ⟨[], [], [], none, [], none, none, none⟩
  userBlocks := []
  payouts _ _ := none

/-- The export has two full pages, the other lists have one that is not. -/
theorem several_rows_listed :
    ((csvExport fourPlayers 7).map (·.session.id) = [2, 1, 3, 4] ∧
      ∃ rows, Lists (getLeaderboardForCsvExport fourPlayers 7 2) rows ∧
        rows.Perm (csvExport fourPlayers 7)) ∧
    ((payoutDetails threePayouts none).length = 3 ∧
      ∃ rows, Lists (getPayouts threePayouts none 4) rows ∧
        rows.Perm (payoutDetails threePayouts none)) ∧
    ((brandChallenges (twoSettled 1 2 (by decide)) 1).length = 2 ∧
      ∃ rows, Lists (getChallengesByBrandId (twoSettled 1 2 (by decide)) 1 4) rows ∧
        rows.Perm (brandChallenges (twoSettled 1 2 (by decide)) 1)) := by
  have hexport := (timestampCursors_list_iff fourPlayers 7 threePayouts none
    (twoSettled 1 2 (by decide)) 1 2 (by decide)).1
  have hiff := timestampCursors_list_iff fourPlayers 7 threePayouts none
    (twoSettled 1 2 (by decide)) 1 4 (by decide)
  have hlength : (csvExport fourPlayers 7).length = 4 := by decide +kernel
  refine ⟨⟨by decide +kernel, hexport.mpr fun j hj => ?_⟩,
    ⟨by decide +kernel, hiff.2.1.mpr (by decide +kernel)⟩, by decide +kernel,
    hiff.2.2.mpr (by decide +kernel)⟩
  obtain rfl | rfl | rfl : j = 0 ∨ j = 1 ∨ j = 2 := by omega
  · simp
  · decide +kernel
  · decide +kernel

/-- One row a page: the export never leaves its first row, and the other queries fail with the
first cursor. -/
theorem first_cursor_fails :
    (¬ ∃ rows, Lists (getLeaderboardForCsvExport halfMillisecond 7 1) rows ∧
      rows.Perm (csvExport halfMillisecond 7)) ∧
    (¬ ∃ rows, Lists (getPayouts onePayout none 1) rows ∧
      rows.Perm (payoutDetails onePayout none)) ∧
    ¬ ∃ rows, Lists (getChallengesByBrandId (twoSettled 1 2 (by decide)) 1 1) rows ∧
      rows.Perm (brandChallenges (twoSettled 1 2 (by decide)) 1) := by
  refine ⟨?_, ?_, ?_⟩
  · rw [getLeaderboardForCsvExport_lists_iff _ _ _ (by decide)]
    intro h
    have hcut := h 1 (by decide +kernel)
    have hlast : ¬ ∀ b ∈ ((csvExport halfMillisecond 7).take (1 * 1)).getLast?,
        ∀ t ∈ b.session.completedAt, WholeMs t := by decide +kernel
    exact hlast fun b hb => (hcut b hb).1
  · rw [getPayouts_lists_iff _ _ _ (by decide)]
    decide +kernel
  · rw [getChallengesByBrandId_lists_iff _ _ _ (by decide)]
    decide +kernel

end BrandBlitz.Paging
