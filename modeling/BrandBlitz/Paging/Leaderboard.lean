import BrandBlitz.Payout.Usdc
import BrandBlitz.Paging.Cursor

/-!
# BrandBlitz.Paging.Leaderboard

**The pages of a leaderboard** (`getLeaderboard` and `getLeaderboardForCsvExport` in
`apps/api/src/db/queries/sessions.ts`).

The three orders of `getLeaderboard` share one cursor, the score, the time of completion and the
id of the last row, and one condition on the next page. Only the comparison of the scores
depends on the order, and it is turned round for every order but `score`.

* The columns of the schema that may be `NULL` are `Option`s, `completed_at` of a completed
  session included: no constraint of the table ties it to the status.
* The window is the one of `now`. With the window `all-time` nothing depends on it.
-/

namespace BrandBlitz.Paging

open BrandBlitz.Lib
open BrandBlitz.Lib.Keyset (Page Lists Cut fullPage)
open BrandBlitz.Sessions (Status)

/-! ### Tables -/

/-- A row of `game_sessions`. -/
structure SessionRow where
  id : Uuid
  userId : Option Uuid
  challengeId : Uuid
  status : Status
  flagged : Bool
  isPractice : Bool
  tierId : Option Uuid
  totalScore : Int
  completedAt : Option Timestamp
  createdAt : Timestamp
deriving DecidableEq, Repr

/-- What a leaderboard shows of a row of `users`. -/
structure User where
  username : Text
  avatarUrl : Text
  displayName : Text
  league : Option Text
  totalEarnedUsdc : Text
  embeddedWalletAddress : Option Text
  stellarAddress : Option Text
  deletedAt : Option Timestamp
deriving DecidableEq, Repr

structure LeaderboardDb where
  sessions : List SessionRow
  /-- `PRIMARY KEY` -/
  ids_nodup : (sessions.map SessionRow.id).Nodup
  /-- `users`, by id -/
  users : Uuid → Option User
  /-- `user_blocks`: who blocks whom -/
  userBlocks : List (Uuid × Uuid)
  /-- `payouts.amount_stroops` by challenge and user, `UNIQUE (challenge_id, user_id)` -/
  payouts : Uuid → Uuid → Option Nat

/-- A row of `game_sessions gs JOIN users u ON gs.user_id = u.id`. -/
structure LeaderboardSession where
  session : SessionRow
  user : User
deriving DecidableEq, Repr

/-- `NULLIF(text, '')`. -/
def nonempty (text : Option Text) : Option Text := text.filter fun text => !text.isEmpty

/-- The column `stellar_address`. -/
def LeaderboardSession.stellarAddress (row : LeaderboardSession) : Option Text :=
  nonempty row.user.embeddedWalletAddress <|> nonempty row.user.stellarAddress

def LeaderboardDb.joined (db : LeaderboardDb) : List LeaderboardSession :=
  db.sessions.filterMap fun session =>
    (session.userId.bind db.users).map fun user => ⟨session, user⟩

/-- The conditions that both queries start with. -/
def ranked (challengeId : Uuid) (row : LeaderboardSession) : Bool :=
  row.session.challengeId = challengeId && !row.session.flagged && !row.session.isPractice &&
    row.session.status = .completed && row.user.deletedAt.isNone

/-! ### The order and the cursor -/

inductive LeaderboardSort where
  | score | rank | createdAt
deriving DecidableEq, Repr

/-- `gs.total_score DESC, gs.completed_at ASC, gs.id ASC`. -/
def scoreKey (session : SessionRow) : Intᵒᵈ ×ₗ WithTop Int ×ₗ Nat :=
  toLex (OrderDual.toDual session.totalScore,
    toLex (Sql.nullsLast session.completedAt, session.id))

/-- `gs.created_at DESC, gs.total_score DESC, gs.id ASC`. -/
def createdAtKey (session : SessionRow) : Intᵒᵈ ×ₗ Intᵒᵈ ×ₗ Nat :=
  toLex (OrderDual.toDual session.createdAt,
    toLex (OrderDual.toDual session.totalScore, session.id))

def leaderboardOrderBy (sortBy : LeaderboardSort) (rows : List LeaderboardSession) :
    List LeaderboardSession :=
  match sortBy with
  | .score | .rank => Sql.orderBy (fun row => scoreKey row.session) rows
  | .createdAt => Sql.orderBy (fun row => createdAtKey row.session) rows

/-- What is compared with a cursor. -/
structure CursorParams where
  totalScore : Option Int
  completedAt : Option Timestamp
  id : Option Uuid

/-- The condition on the rows of the next page, for a comparison of scores. -/
def keysetClause (scoreOp : Option Int → Option Int → Sql.Cond) (cursor : CursorParams)
    (session : SessionRow) : Sql.Cond :=
  Sql.or (scoreOp (some session.totalScore) cursor.totalScore)
    (Sql.and (Sql.eq (some session.totalScore) cursor.totalScore)
      (Sql.or (Sql.gt session.completedAt cursor.completedAt)
        (Sql.and (Sql.eq session.completedAt cursor.completedAt)
          (Sql.gt (some session.id) cursor.id))))

/-- The cursor of a row. -/
def sessionCursor (session : SessionRow) : Cursor :=
  encodeCursor [("total_score", .number session.totalScore),
    ("completed_at", jsTimestamp session.completedAt), ("id", .string (.uuid session.id))]

/-- The parameters a cursor is turned into. -/
def cursorParams (values : Cursor) : Except ApiError CursorParams := do
  let totalScore ← integerParam (values.get "total_score")
  let completedAt ← timestampParam (values.get "completed_at")
  let id ← uuidParam (values.get "id")
  return ⟨totalScore, completedAt, id⟩

/-- The condition a cursor adds; without a usable cursor it adds none. -/
def sessionCursorClause (scoreOp : Option Int → Option Int → Sql.Cond) (cursor : Option Cursor) :
    Except ApiError (SessionRow → Sql.Cond) :=
  match decodeCursorSafe cursor ["total_score", "completed_at", "id"] with
  | none => .ok fun _ => some true
  | some values => do
      let params ← cursorParams values
      return keysetClause scoreOp params

/-! ### The queries -/

inductive LeaderboardWindow where
  | daily | weekly | allTime
deriving DecidableEq, Repr

/-- `LEADERBOARD_WINDOW_INTERVALS`, in microseconds. -/
def LeaderboardWindow.interval : LeaderboardWindow → Option Int
  | .daily => some (24 * 3600 * 1000000)
  | .weekly => some (7 * 24 * 3600 * 1000000)
  | .allTime => none

structure LeaderboardQuery where
  challengeId : Uuid
  limit : Nat
  sortBy : LeaderboardSort
  friendUserIds : Option (List Uuid)
  window : LeaderboardWindow
  tierId : Option Uuid
  viewerUserId : Option Uuid

/-- `friendUserIds && friendUserIds.length > 0`. -/
def amongFriends (friendUserIds : Option (List Uuid)) (row : LeaderboardSession) : Bool :=
  match friendUserIds with
  | none | some [] => true
  | some friends => friends.any fun friend => Sql.holds (Sql.eq row.session.userId (some friend))

def inWindow (now : Timestamp) (window : LeaderboardWindow) (row : LeaderboardSession) : Bool :=
  match window.interval with
  | none => true
  | some interval => Sql.holds (Sql.ge row.session.completedAt (some (now - interval)))

def inTier (tierId : Option Uuid) (row : LeaderboardSession) : Bool :=
  match tierId with
  | none => true
  | some tierId => Sql.holds (Sql.eq row.session.tierId (some tierId))

/-- Neither of the viewer and the player blocks the other. -/
def notBlocked (db : LeaderboardDb) (viewerUserId : Option Uuid) (row : LeaderboardSession) :
    Bool :=
  match viewerUserId with
  | none => true
  | some viewer => !db.userBlocks.any fun (blocker, blocked) =>
      (blocker = viewer && some blocked = row.session.userId) ||
        (blocked = viewer && some blocker = row.session.userId)

/-- The rows that match the filters. -/
def leaderboardWhere (db : LeaderboardDb) (now : Timestamp) (q : LeaderboardQuery)
    (row : LeaderboardSession) : Bool :=
  ranked q.challengeId row && amongFriends q.friendUserIds row && inWindow now q.window row &&
    inTier q.tierId row && notBlocked db q.viewerUserId row

def getLeaderboard (db : LeaderboardDb) (now : Timestamp) (q : LeaderboardQuery)
    (cursor : Option Cursor) : Except ApiError (Page LeaderboardSession Cursor) := do
  let scoreOp := if q.sortBy = .score then Sql.lt else Sql.gt
  let clause ← sessionCursorClause scoreOp cursor
  let matching := db.joined.filter fun row =>
    leaderboardWhere db now q row && Sql.holds (clause row.session)
  return fullPage q.limit (fun row => sessionCursor row.session)
    ((leaderboardOrderBy q.sortBy matching).take q.limit)

/-- The query without pages. -/
def leaderboard (db : LeaderboardDb) (now : Timestamp) (q : LeaderboardQuery) :
    List LeaderboardSession :=
  leaderboardOrderBy q.sortBy (db.joined.filter (leaderboardWhere db now q))

/-! ### What the query depends on -/

/-- A leaderboard depends on the sessions of the competition only. -/
theorem getLeaderboard_congr {d d' : LeaderboardDb} (husers : d'.users = d.users)
    (hblocks : d'.userBlocks = d.userBlocks)
    (hsessions : d'.sessions.filter (fun s => !s.isPractice) =
      d.sessions.filter fun s => !s.isPractice)
    (now : Timestamp) (q : LeaderboardQuery) (cursor : Option Cursor) :
    getLeaderboard d' now q cursor = getLeaderboard d now q cursor := by
  have hwhere : leaderboardWhere d' now q = leaderboardWhere d now q := by
    funext row
    simp only [leaderboardWhere, notBlocked, hblocks]
  have hmatching (clause : SessionRow → Sql.Cond) :
      (d'.joined.filter fun row =>
        leaderboardWhere d now q row && Sql.holds (clause row.session)) =
      d.joined.filter fun row =>
        leaderboardWhere d now q row && Sql.holds (clause row.session) := by
    have hranked (session : SessionRow) (row : LeaderboardSession)
        (hrow : ((session.userId.bind d.users).map fun user =>
          (⟨session, user⟩ : LeaderboardSession)) = some row)
        (hwhere : (leaderboardWhere d now q row &&
          Sql.holds (clause row.session)) = true) : (!session.isPractice) = true := by
      obtain ⟨user, -, rfl⟩ := Option.map_eq_some_iff.mp hrow
      simp only [leaderboardWhere, ranked, Bool.and_eq_true] at hwhere
      exact hwhere.1.1.1.1.1.1.1.2
    rw [LeaderboardDb.joined, LeaderboardDb.joined, husers,
      Sql.filter_join (fun s : SessionRow => !s.isPractice) hranked d'.sessions, hsessions]
    exact (Sql.filter_join (fun s : SessionRow => !s.isPractice) hranked d.sessions).symm
  simp only [getLeaderboard, hwhere, hmatching]

/-! ### What a cursor admits -/

/-- The rows of the next page, after the row `b`. -/
def afterRow (scoreOp : Option Int → Option Int → Sql.Cond) (b r : SessionRow) : Bool :=
  Sql.holds (keysetClause scoreOp ⟨some b.totalScore, b.completedAt.map clip, some b.id⟩ r)

theorem sessionCursorClause_cursor (scoreOp : Option Int → Option Int → Sql.Cond)
    (b : SessionRow) :
    sessionCursorClause scoreOp (some (sessionCursor b)) =
      .ok (keysetClause scoreOp ⟨some b.totalScore, b.completedAt.map clip, some b.id⟩) := by
  have hdecode : decodeCursorSafe (some (sessionCursor b)) ["total_score", "completed_at", "id"] =
      some (sessionCursor b) := rfl
  have htime : (sessionCursor b).get "completed_at" = (jsTimestamp b.completedAt).toJson := rfl
  rw [sessionCursorClause, hdecode]
  simp only [cursorParams, htime, timestampParam_jsTimestamp]
  rfl

/-- Both rows are timed, and `r` comes after `b` by its time and then by its id. -/
def Later (b r : SessionRow) : Prop :=
  ∃ t u, b.completedAt = some t ∧ r.completedAt = some u ∧ (t < u ∨ t = u ∧ b.id < r.id)

/-- What a cursor admits of the rows with the score of its row. -/
theorem holds_timeClause (t : Option Timestamp) (b r : SessionRow) (ht : t = b.completedAt) :
    Sql.holds (Sql.or (Sql.gt r.completedAt t)
      (Sql.and (Sql.eq r.completedAt t) (Sql.gt (some r.id) (some b.id)))) = true ↔
      Later b r := by
  subst ht
  simp only [Sql.holds_or, Sql.holds_and, Bool.or_eq_true, Bool.and_eq_true, Sql.holds_gt,
    Sql.holds_eq, Later]
  constructor
  · rintro (⟨u, t, hu, ht, h⟩ | ⟨⟨t, hu, ht⟩, i, j, hi, hj, h⟩)
    · exact ⟨t, u, ht, hu, .inl h⟩
    · cases hi
      cases hj
      exact ⟨t, t, ht, hu, .inr ⟨rfl, h⟩⟩
  · rintro ⟨t, u, ht, hu, h | ⟨rfl, h⟩⟩
    · exact .inl ⟨u, t, hu, ht, h⟩
    · exact .inr ⟨⟨t, hu, ht⟩, _, _, rfl, rfl, h⟩

theorem afterRow_lt_iff {b r : SessionRow} (hb : b.completedAt.map clip = b.completedAt) :
    afterRow Sql.lt b r = true ↔
      r.totalScore < b.totalScore ∨ r.totalScore = b.totalScore ∧ Later b r := by
  rw [afterRow, keysetClause, Sql.holds_or, Sql.holds_and, Bool.or_eq_true, Bool.and_eq_true,
    holds_timeClause _ b r hb]
  exact or_congr (Sql.holds_compare_some _ _ _)
    (and_congr_left' (Sql.holds_compare_some _ _ _))

theorem afterRow_gt_iff {b r : SessionRow} (hb : b.completedAt.map clip = b.completedAt) :
    afterRow Sql.gt b r = true ↔
      b.totalScore < r.totalScore ∨ r.totalScore = b.totalScore ∧ Later b r := by
  rw [afterRow, keysetClause, Sql.holds_or, Sql.holds_and, Bool.or_eq_true, Bool.and_eq_true,
    holds_timeClause _ b r hb]
  exact or_congr (Sql.holds_compare_some _ _ _)
    (and_congr_left' (Sql.holds_compare_some _ _ _))

/-! ### The order and the cursor compared -/

theorem scoreKey_lt_iff {b r : SessionRow} :
    scoreKey b < scoreKey r ↔ r.totalScore < b.totalScore ∨
      r.totalScore = b.totalScore ∧ (Sql.nullsLast b.completedAt < Sql.nullsLast r.completedAt ∨
        b.completedAt = r.completedAt ∧ b.id < r.id) := by
  simp only [scoreKey, Prod.Lex.toLex_lt_toLex, OrderDual.toDual_lt_toDual,
    OrderDual.toDual_inj, Sql.nullsLast_inj, eq_comm]

/-- The order of time and id, and what the cursor makes of it: the same, for a row that is
timed. -/
theorem later_iff {b r : SessionRow} :
    Later b r ↔ r.completedAt.isSome ∧
      (Sql.nullsLast b.completedAt < Sql.nullsLast r.completedAt ∨
        b.completedAt = r.completedAt ∧ b.id < r.id) := by
  unfold Later
  cases hr : r.completedAt with
  | none => simp
  | some u =>
      cases hb : b.completedAt with
      | none => simp
      | some t => simp

/-- A cursor of the order by score admits nothing that is not after its row. -/
theorem scoreKey_lt_of_afterRow {b r : SessionRow} (hb : b.completedAt.map clip = b.completedAt)
    (h : afterRow Sql.lt b r = true) : scoreKey b < scoreKey r := by
  rcases (afterRow_lt_iff hb).mp h with hlt | ⟨heq, hlater⟩
  · exact scoreKey_lt_iff.mpr (.inl hlt)
  · exact scoreKey_lt_iff.mpr (.inr ⟨heq, (later_iff.mp hlater).2⟩)

/-- It admits a row after its own unless that has the same score and is not timed. -/
theorem afterRow_lt_iff_of_lt {b r : SessionRow} (hb : b.completedAt.map clip = b.completedAt)
    (h : scoreKey b < scoreKey r) :
    afterRow Sql.lt b r = true ↔ (r.totalScore = b.totalScore → r.completedAt.isSome) := by
  rw [afterRow_lt_iff hb]
  rcases scoreKey_lt_iff.mp h with hlt | ⟨heq, htime⟩
  · exact iff_of_true (.inl hlt) fun heq => by omega
  · rw [later_iff]
    simp [heq, htime]

/-- The other comparison of scores admits, of the rows after its own in the order by score,
those with the same score that are timed. -/
theorem afterRow_gt_iff_of_lt {b r : SessionRow} (hb : b.completedAt.map clip = b.completedAt)
    (h : scoreKey b < scoreKey r) :
    afterRow Sql.gt b r = true ↔ r.totalScore = b.totalScore ∧ r.completedAt.isSome := by
  rw [afterRow_gt_iff hb, later_iff]
  rcases scoreKey_lt_iff.mp h with hlt | ⟨heq, htime⟩
  · constructor
    · rintro (h | ⟨h, -⟩) <;> omega
    · rintro ⟨h, -⟩; omega
  · simp [heq, htime]

/-- Of the rows before its own, and of its own, it admits those with another score. -/
theorem afterRow_gt_iff_of_ge {b r : SessionRow} (hb : b.completedAt.map clip = b.completedAt)
    (h : ¬ scoreKey b < scoreKey r) :
    afterRow Sql.gt b r = true ↔ r.totalScore ≠ b.totalScore := by
  rw [afterRow_gt_iff hb]
  rw [scoreKey_lt_iff] at h
  have hle : b.totalScore ≤ r.totalScore := by
    by_contra hlt
    exact h (.inl (by omega))
  constructor
  · rintro (hlt | ⟨heq, hlater⟩)
    · omega
    · exact absurd (.inr ⟨heq, (later_iff.mp hlater).2⟩) h
  · intro hne
    exact .inl (by omega)

section
variable {ρ : Type} {session : ρ → SessionRow} {rows : List ρ} {k n : Nat}

theorem not_scoreKey_lt_of_mem_take
    (hrows : rows.Pairwise fun a b => scoreKey (session a) < scoreKey (session b)) {b r : ρ}
    (hb : b ∈ (rows.take k).getLast?) (hr : r ∈ rows.take k) :
    ¬ scoreKey (session b) < scoreKey (session r) := by
  intro hlt
  rcases Keyset.rel_getLast_of_mem_take hrows hb hr with rfl | hgt
  · exact lt_irrefl _ hlt
  · exact lt_asymm hlt hgt

/-- The cuts of rows in the order by score, where the last timestamp before the cut loses
nothing in the cursor. -/
theorem cut_score_iff
    (hrows : rows.Pairwise fun a b => scoreKey (session a) < scoreKey (session b))
    (hms : ∀ b ∈ (rows.take k).getLast?,
      (session b).completedAt.map clip = (session b).completedAt) :
    Cut rows (fun b r => afterRow Sql.lt (session b) (session r)) k n ↔
      ∀ b ∈ (rows.take k).getLast?, ∀ r ∈ (rows.drop k).take n,
        (session r).totalScore = (session b).totalScore → (session r).completedAt.isSome := by
  constructor
  · intro hcut b hb r hr
    have hlt := Keyset.getLast_rel_of_mem_drop hrows hb (List.mem_of_mem_take hr)
    exact (afterRow_lt_iff_of_lt (hms b hb) hlt).mp (hcut.ahead b hb r hr)
  · intro h
    constructor
    · intro b hb r hr
      by_contra hafter
      exact not_scoreKey_lt_of_mem_take hrows hb hr
        (scoreKey_lt_of_afterRow (hms b hb) (by simpa using hafter))
    · intro b hb r hr
      have hlt := Keyset.getLast_rel_of_mem_drop hrows hb (List.mem_of_mem_take hr)
      exact (afterRow_lt_iff_of_lt (hms b hb) hlt).mpr (h b hb r hr)

end

/-! ### The unpaged query -/

/-- A session joins at most one user. -/
theorem LeaderboardDb.joined_ids_nodup (db : LeaderboardDb) :
    (db.joined.map fun row => row.session.id).Nodup := by
  have hsub : (db.joined.map LeaderboardSession.session).Sublist db.sessions := by
    refine Sql.join_sublist (fun session row hrow => ?_) db.sessions
    obtain ⟨user, -, rfl⟩ := Option.map_eq_some_iff.mp hrow
    rfl
  have hids := db.ids_nodup.sublist (hsub.map SessionRow.id)
  rwa [List.map_map] at hids

theorem scoreKey_unique {ρ : Type} {session : ρ → SessionRow} {rows : List ρ}
    (h : (rows.map fun row => (session row).id).Nodup) :
    Sql.KeyUnique (fun row => scoreKey (session row)) rows :=
  .of_column (fun key => (ofLex (ofLex key).2).2) h

theorem createdAtKey_unique {rows : List LeaderboardSession}
    (h : (rows.map fun row => row.session.id).Nodup) :
    Sql.KeyUnique (fun row => createdAtKey row.session) rows :=
  .of_column (fun key => (ofLex (ofLex key).2).2) h

/-- A condition may be tested before or after sorting, in each order. -/
theorem leaderboardOrderBy_filter {rows : List LeaderboardSession}
    (h : (rows.map fun row => row.session.id).Nodup) (sortBy : LeaderboardSort)
    (keep : LeaderboardSession → Bool) :
    leaderboardOrderBy sortBy (rows.filter keep) =
      (leaderboardOrderBy sortBy rows).filter keep := by
  cases sortBy with
  | score => exact Sql.orderBy_filter (scoreKey_unique h) keep
  | rank => exact Sql.orderBy_filter (scoreKey_unique h) keep
  | createdAt => exact Sql.orderBy_filter (createdAtKey_unique h) keep

variable (db : LeaderboardDb) (now : Timestamp) (q : LeaderboardQuery)

theorem matching_ids_nodup :
    ((db.joined.filter (leaderboardWhere db now q)).map fun row => row.session.id).Nodup :=
  db.joined_ids_nodup.sublist (List.filter_sublist.map _)

theorem leaderboard_nodup : (leaderboard db now q).Nodup := by
  have hids := matching_ids_nodup db now q
  unfold leaderboard
  cases q.sortBy with
  | score => exact (scoreKey_unique hids).orderBy_nodup
  | rank => exact (scoreKey_unique hids).orderBy_nodup
  | createdAt => exact (createdAtKey_unique hids).orderBy_nodup

/-- The listing is the matching rows, each once. -/
theorem leaderboard_perm :
    (leaderboard db now q).Perm (db.joined.filter (leaderboardWhere db now q)) := by
  unfold leaderboard
  cases q.sortBy <;> exact Sql.orderBy_perm _ _

/-- The comparison of scores. -/
def LeaderboardQuery.scoreOp (q : LeaderboardQuery) : Option Int → Option Int → Sql.Cond :=
  if q.sortBy = .score then Sql.lt else Sql.gt

/-- One page, in terms of the unpaged query. -/
theorem getLeaderboard_eq (b : Option LeaderboardSession) :
    getLeaderboard db now q (b.map fun row => sessionCursor row.session) =
      .ok (fullPage q.limit (fun row => sessionCursor row.session)
        ((Keyset.window (leaderboard db now q)
          (fun b r => afterRow q.scoreOp b.session r.session) b).take q.limit)) := by
  have hids := matching_ids_nodup db now q
  cases b with
  | none =>
      simp only [getLeaderboard, sessionCursorClause, decodeCursorSafe, Option.map_none]
      simp only [bind, Except.bind, pure, Except.pure, Sql.holds_some, Bool.and_true]
      rfl
  | some b =>
      simp only [getLeaderboard, Option.map_some, sessionCursorClause_cursor]
      simp only [bind, Except.bind, pure, Except.pure]
      simp only [Keyset.window, leaderboard, ← leaderboardOrderBy_filter hids, List.filter_filter]
      simp only [afterRow, LeaderboardQuery.scoreOp, Bool.and_comm]

/-! ### When the pages are the leaderboard -/

/-- `r` is above `b` by score, then by time, then by id. -/
def Above (b r : SessionRow) : Prop :=
  b.totalScore < r.totalScore ∨ r.totalScore = b.totalScore ∧ Later b r

/-- What it takes for the pages of `n` rows to be the listing `rows`.

* By score: after the last row of a page, no row of the next page has the same score and is
  not timed.
* By rank: the listing fits on a page that is not full, or all rows have one score, and those
  after the first page are timed.
* By creation: of the last row of a page, no row so far is above it by score, time and id, and
  every row of the next page is. -/
def PagesAgree (sortBy : LeaderboardSort) (n : Nat) (rows : List LeaderboardSession) : Prop :=
  match sortBy with
  | .score => ∀ j, j * n ≤ rows.length → ∀ b ∈ (rows.take (j * n)).getLast?,
      ∀ r ∈ (rows.drop (j * n)).take n,
        r.session.totalScore = b.session.totalScore → r.session.completedAt.isSome
  | .rank => rows.length < n ∨
      (∀ r ∈ rows, ∀ r' ∈ rows, r.session.totalScore = r'.session.totalScore) ∧
        ∀ r ∈ rows.drop n, r.session.completedAt.isSome
  | .createdAt => ∀ j, j * n ≤ rows.length → ∀ b ∈ (rows.take (j * n)).getLast?,
      (∀ r ∈ rows.take (j * n), ¬ Above b.session r.session) ∧
        ∀ r ∈ (rows.drop (j * n)).take n, Above b.session r.session

/-- The timestamps have whole milliseconds. -/
def LeaderboardDb.WholeMs (db : LeaderboardDb) : Prop :=
  ∀ session ∈ db.sessions, ∀ t ∈ session.completedAt, Paging.WholeMs t

section
variable {rows : List LeaderboardSession} {n : Nat}

/-- The cuts of the order by rank. -/
theorem cut_rank_iff (hrows : rows.Pairwise fun a b => scoreKey a.session < scoreKey b.session)
    (hms : ∀ r ∈ rows, r.session.completedAt.map clip = r.session.completedAt) (k : Nat) :
    Cut rows (fun b r => afterRow Sql.gt b.session r.session) k n ↔
      ∀ b ∈ (rows.take k).getLast?,
        (∀ r ∈ rows.take k, r.session.totalScore = b.session.totalScore) ∧
        ∀ r ∈ (rows.drop k).take n,
          r.session.totalScore = b.session.totalScore ∧ r.session.completedAt.isSome := by
  have hmem : ∀ b ∈ (rows.take k).getLast?,
      b.session.completedAt.map clip = b.session.completedAt :=
    fun b hb => hms b (List.mem_of_mem_take (List.mem_of_getLast? hb))
  have hbefore : ∀ b ∈ (rows.take k).getLast?, ∀ r ∈ rows.take k,
      ¬ scoreKey b.session < scoreKey r.session :=
    fun b hb r hr => not_scoreKey_lt_of_mem_take hrows hb hr
  constructor
  · intro hcut b hb
    constructor
    · intro r hr
      by_contra hne
      have hafter := (afterRow_gt_iff_of_ge (hmem b hb) (hbefore b hb r hr)).mpr hne
      rw [hcut.behind b hb r hr] at hafter
      cases hafter
    · intro r hr
      have hlt := Keyset.getLast_rel_of_mem_drop hrows hb (List.mem_of_mem_take hr)
      exact (afterRow_gt_iff_of_lt (hmem b hb) hlt).mp (hcut.ahead b hb r hr)
  · intro h
    constructor
    · intro b hb r hr
      by_contra hafter
      exact (afterRow_gt_iff_of_ge (hmem b hb) (hbefore b hb r hr)).mp (by simpa using hafter)
        ((h b hb).1 r hr)
    · intro b hb r hr
      have hlt := Keyset.getLast_rel_of_mem_drop hrows hb (List.mem_of_mem_take hr)
      exact (afterRow_gt_iff_of_lt (hmem b hb) hlt).mpr ((h b hb).2 r hr)

/-- All cuts of the order by rank are right if all rows have one score, or if there is no
second page. -/
theorem cuts_rank_iff (hn : 0 < n)
    (hrows : rows.Pairwise fun a b => scoreKey a.session < scoreKey b.session)
    (hms : ∀ r ∈ rows, r.session.completedAt.map clip = r.session.completedAt) :
    (∀ j, j * n ≤ rows.length →
      Cut rows (fun b r => afterRow Sql.gt b.session r.session) (j * n) n) ↔
      PagesAgree .rank n rows := by
  simp only [cut_rank_iff hrows hms]
  constructor
  · intro h
    by_cases hlen : rows.length < n
    · exact .inl hlen
    refine .inr ⟨?_, fun r hr => ?_⟩
    · -- the last cut has all rows on its two sides
      have hle : rows.length / n * n ≤ rows.length := Nat.div_mul_le_self _ _
      have hlt : rows.length < rows.length / n * n + n := Nat.lt_div_mul_add hn
      have hpos : 0 < rows.length / n * n :=
        Nat.mul_pos (Nat.div_pos (by omega) hn) hn
      obtain ⟨b, hb⟩ := Keyset.exists_getLast?_take hpos hle
      obtain ⟨htake, hdrop⟩ := h _ hle b hb
      have hall : ∀ r ∈ rows, r.session.totalScore = b.session.totalScore := by
        intro r hr
        rw [← List.take_append_drop (rows.length / n * n) rows] at hr
        rcases List.mem_append.mp hr with hr | hr
        · exact htake r hr
        · refine (hdrop r ?_).1
          rwa [List.take_of_length_le (by rw [List.length_drop]; omega)]
      intro r hr r' hr'
      rw [hall r hr, hall r' hr']
    · rw [← Nat.one_mul n] at hr
      obtain ⟨j, hj, hlt, hpage⟩ := Keyset.exists_page_of_mem_drop hn hr
      have hpos : 0 < j * n := Nat.mul_pos (by omega) hn
      obtain ⟨b, hb⟩ := Keyset.exists_getLast?_take hpos (Nat.le_of_lt hlt)
      exact ((h j (Nat.le_of_lt hlt) b hb).2 r hpage).2
  · rintro (hlen | ⟨hscore, htimed⟩) j hj b hb
    · obtain rfl : j = 0 := by
        by_contra hne
        have : 1 * n ≤ j * n := Nat.mul_le_mul_right n (by omega)
        omega
      simp at hb
    · have hmem := List.mem_of_mem_take (List.mem_of_getLast? hb)
      refine ⟨fun r hr => hscore r (List.mem_of_mem_take hr) b hmem, fun r hr => ?_⟩
      have hdrop := List.mem_of_mem_take hr
      refine ⟨hscore r (List.mem_of_mem_drop hdrop) b hmem, htimed r ?_⟩
      have hle : n ≤ j * n := by
        rcases Nat.eq_zero_or_pos j with rfl | hpos
        · simp at hb
        · exact Nat.le_mul_of_pos_left n hpos
      obtain ⟨m, hm⟩ := Nat.exists_eq_add_of_le hle
      rw [hm, ← List.drop_drop] at hdrop
      exact List.mem_of_mem_drop hdrop

/-- The cuts of the order by creation. -/
theorem cut_createdAt_iff
    (hms : ∀ r ∈ rows, r.session.completedAt.map clip = r.session.completedAt) (k : Nat) :
    Cut rows (fun b r => afterRow Sql.gt b.session r.session) k n ↔
      ∀ b ∈ (rows.take k).getLast?, (∀ r ∈ rows.take k, ¬ Above b.session r.session) ∧
        ∀ r ∈ (rows.drop k).take n, Above b.session r.session := by
  have hafter : ∀ b ∈ (rows.take k).getLast?, ∀ r : LeaderboardSession,
      afterRow Sql.gt b.session r.session = true ↔ Above b.session r.session :=
    fun b hb r => afterRow_gt_iff (hms b (List.mem_of_mem_take (List.mem_of_getLast? hb)))
  constructor
  · intro hcut b hb
    refine ⟨fun r hr habove => ?_, fun r hr => (hafter b hb r).mp (hcut.ahead b hb r hr)⟩
    have htrue := (hafter b hb r).mpr habove
    rw [hcut.behind b hb r hr] at htrue
    cases htrue
  · intro h
    refine ⟨fun b hb r hr => ?_, fun b hb r hr => (hafter b hb r).mpr ((h b hb).2 r hr)⟩
    by_contra htrue
    exact (h b hb).1 r hr ((hafter b hb r).mp (by simpa using htrue))

end

theorem leaderboard_pairwise (hsort : q.sortBy ≠ .createdAt) :
    (leaderboard db now q).Pairwise fun a b => scoreKey a.session < scoreKey b.session := by
  have hunique := scoreKey_unique (matching_ids_nodup db now q)
  unfold leaderboard
  cases h : q.sortBy with
  | score => exact Sql.orderBy_pairwise_lt hunique
  | rank => exact Sql.orderBy_pairwise_lt hunique
  | createdAt => exact absurd h hsort

/-- No timestamp of the listing loses anything in a cursor. -/
theorem leaderboard_clip (hms : db.WholeMs) : ∀ r ∈ leaderboard db now q,
    r.session.completedAt.map clip = r.session.completedAt := by
  intro r hr
  have hjoined := List.mem_of_mem_filter ((leaderboard_perm db now q).mem_iff.mp hr)
  obtain ⟨session, hsession, hrow⟩ := List.mem_filterMap.mp hjoined
  obtain ⟨user, -, rfl⟩ := Option.map_eq_some_iff.mp hrow
  exact clip_of_wholeMs (hms session hsession)

/-- **When following the cursors of a leaderboard lists it.** -/
theorem getLeaderboard_lists_iff (hlimit : 0 < q.limit) (hms : db.WholeMs) :
    Lists (getLeaderboard db now q) (leaderboard db now q) ↔
      PagesAgree q.sortBy q.limit (leaderboard db now q) := by
  have hclip := leaderboard_clip db now q hms
  rw [Keyset.fullPage_lists_iff (leaderboard_nodup db now q) hlimit (getLeaderboard_eq db now q)]
  cases hsort : q.sortBy with
  | score =>
      have hop : q.scoreOp = Sql.lt := by simp [LeaderboardQuery.scoreOp, hsort]
      have hrows := leaderboard_pairwise db now q (by simp [hsort])
      have hlast : ∀ k, ∀ b ∈ ((leaderboard db now q).take k).getLast?,
          b.session.completedAt.map clip = b.session.completedAt :=
        fun k b hb => hclip b (List.mem_of_mem_take (List.mem_of_getLast? hb))
      simp only [hop, cut_score_iff hrows (hlast _)]
      rfl
  | rank =>
      have hop : q.scoreOp = Sql.gt := by simp [LeaderboardQuery.scoreOp, hsort]
      have hrows := leaderboard_pairwise db now q (by simp [hsort])
      rw [hop]
      exact cuts_rank_iff hlimit hrows hclip
  | createdAt =>
      have hop : q.scoreOp = Sql.gt := by simp [LeaderboardQuery.scoreOp, hsort]
      simp only [hop, cut_createdAt_iff hclip]
      rfl

/-- Two players who completed challenge 7. -/
def twoPlayers : LeaderboardDb where
  sessions := [
    ⟨1, some 10, 7, .completed, false, false, none, 300, some 5000, 1000⟩,
    ⟨2, some 11, 7, .completed, false, false, none, 200, some 6000, 2000⟩]
  ids_nodup := by decide
  users id := some ⟨Nat.toDigits 10 id, [], [], none, [], none, none, none⟩
  userBlocks := []
  payouts _ _ := none

/-- Their leaderboard, one row a page. -/
def rowByRow (sortBy : LeaderboardSort) : LeaderboardQuery :=
  ⟨7, 1, sortBy, none, .allTime, none, none⟩

theorem twoPlayers_wholeMs : twoPlayers.WholeMs := by
  unfold LeaderboardDb.WholeMs
  decide

theorem twoPlayers_listed_by_score :
    Lists (getLeaderboard twoPlayers 0 (rowByRow .score))
      (leaderboard twoPlayers 0 (rowByRow .score)) := by
  refine (getLeaderboard_lists_iff twoPlayers 0 (rowByRow .score) (by decide)
    twoPlayers_wholeMs).mpr fun j _ b _ r hr _ => ?_
  have htimed : ∀ r ∈ leaderboard twoPlayers 0 (rowByRow .score),
      r.session.completedAt.isSome := by decide +kernel
  exact htimed r (List.mem_of_mem_drop (List.mem_of_mem_take hr))

/-- By rank the second page is empty: it is asked for a higher score. -/
theorem second_player_lost_by_rank :
    0 < (rowByRow .rank).limit ∧ twoPlayers.WholeMs ∧
      (leaderboard twoPlayers 0 (rowByRow .rank)).map (·.session.id) = [1, 2] ∧
      (∃ rows, Lists (getLeaderboard twoPlayers 0 (rowByRow .rank)) rows ∧
        rows.map (·.session.id) = [1]) ∧
      ¬ Lists (getLeaderboard twoPlayers 0 (rowByRow .rank))
        (leaderboard twoPlayers 0 (rowByRow .rank)) := by
  have hlists : Lists (getLeaderboard twoPlayers 0 (rowByRow .rank))
      ((leaderboard twoPlayers 0 (rowByRow .rank)).take 1) := ⟨2, by decide +kernel⟩
  refine ⟨by decide, twoPlayers_wholeMs, by decide +kernel, ⟨_, hlists, by decide +kernel⟩,
    fun h => ?_⟩
  have hlength := congrArg List.length (Keyset.ListsFrom.unique h hlists)
  revert hlength
  decide +kernel

end BrandBlitz.Paging
