import BrandBlitz.Competition.Tables

/-!
# BrandBlitz.Competition.Leagues

**The points of a week** (`apps/api/src/db/queries/leagues.ts` and the procedure
`recalculate_league` of `migrations/042_weighted_league_recalculation.sql`).

Each completed session of the week is worth up to about a thousand points, for the answers that
were right, for their speed and for the streak of the player, with the weights of the player's
assignment or league. The procedure writes the sums of those that have one.

`recalculateWeeklyPoints` is to write them all, but its statement begins `WITH window AS (…)`, and
`window` is a reserved word of PostgreSQL: the statement is rejected (42601) whatever the rows
are. (With another name it would be rejected next, as a join condition in its `FROM` names the
target of the `UPDATE`.) So all that it does is to fail.

* A day begins at midnight UTC.
-/

namespace BrandBlitz.Competition

open BrandBlitz.Lib
open BrandBlitz.Paging (Uuid Timestamp)
open BrandBlitz.Sessions (Round)

/-! ### The points of a session -/

/-- The start of a day, in microseconds. -/
def dayStart (day : Int) : Timestamp := day * 86400000000

def GameSession.isCompleted (s : GameSession) : Bool := s.status = .completed

/-- Was the session completed in the week? -/
def GameSession.inWeek (weekStart : Int) (s : GameSession) : Bool :=
  s.isCompleted && Sql.holds (Sql.ge s.completedAt (some (dayStart weekStart))) &&
    Sql.holds (Sql.lt s.completedAt (some (dayStart (weekStart + 7))))

/-- How many rounds brought points. -/
def GameSession.correctRounds (s : GameSession) : Nat :=
  [Round.one, .two, .three].countP fun round => 0 < (s.rounds round).score

/-- The sum of the columns `round_N_reaction_ms`, if none is `NULL`. -/
def GameSession.reactionMs (s : GameSession) : Option Nat := do
  let one ← (s.rounds .one).reactionTimeMs
  let two ← (s.rounds .two).reactionTimeMs
  let three ← (s.rounds .three).reactionTimeMs
  return one + two + three

/-- `COALESCE` of the weight of the assignment, the weight of the league and the default. -/
def scoringWeight (column : ScoringWeights → Option ℚ) (default : ℚ) (la : LeagueAssignment)
    (l : Option League) : ℚ :=
  (la.scoringWeights.bind column <|> l.bind fun l => column l.scoringWeights).getD default

def sessionPoints (user : User) (la : LeagueAssignment) (l : Option League) (s : GameSession) :
    Int :=
  let accuracy := Sql.div s.correctRounds 3
  let speed := (s.reactionMs.map fun ms => 1 - Sql.div ms 90000).getD 0
  let streak := min (Sql.div user.streak 10) 1
  Sql.round (1000 * (accuracy * scoringWeight ScoringWeights.accuracy (2 / 5) la l +
    speed * scoringWeight ScoringWeights.speed (2 / 5) la l +
    streak * scoringWeight ScoringWeights.streak (1 / 5) la l))

/-! ### The points of a week -/

/-- `LEFT JOIN leagues l ON …`. -/
def Db.leaguesOf (db : Db) (la : LeagueAssignment) : List (Option League) :=
  let matching := db.leagues.filter fun l =>
    some l.id = la.leagueId ||
      (la.leagueId.isNone && l.brandId.isNone && l.name = la.league.text)
  if matching.isEmpty then [none] else matching.map some

/-- The points of the sessions of a user, as the joins list them. -/
def Db.weekPoints (db : Db) (weekStart : Int) (userId : Uuid) : List Int :=
  (db.sessions.filter fun s => s.inWeek weekStart && s.userId = some userId).flatMap fun s =>
    (db.users userId).toList.flatMap fun user =>
      (db.assignments.filter fun la => la.userId = userId && la.weekStart = weekStart).flatMap
        fun la => (db.leaguesOf la).map fun l => sessionPoints user la l s

/-- The row of `sums` of a user, if there is one. -/
def Db.sums (db : Db) (weekStart : Int) (userId : Uuid) : Option Int :=
  match db.weekPoints weekStart userId with
  | [] => none
  | points => some points.sum

/-- `UPDATE league_assignments SET … WHERE week_start = $1`. -/
def Db.updateWeek (db : Db) (weekStart : Int) (set : LeagueAssignment → LeagueAssignment) : Db :=
  { db with
    assignments := db.assignments.map fun la => if la.weekStart = weekStart then set la else la }

/-- What PostgreSQL says of the names in a `WITH`. -/
def checkNames (names : List String) : Except ApiError Unit :=
  (Statements.checkNames names).mapError Sessions.rejection

/-- The statement does not get beyond its first name. -/
def Db.recalculateWeeklyPoints (_db : Db) (_weekStart : Int) : Except ApiError Db := do
  checkNames ["window", "sums"]
  -- `UPDATE league_assignments la … FROM window w LEFT JOIN sums s ON s.user_id = la.user_id`:
  -- the target is not one of the tables that are joined
  .error (Sessions.dbError "invalid reference to FROM-clause entry for table \"la\"" "42P01")

/-- The error of the league queries. -/
def windowReserved : ApiError :=
  Sessions.dbError "syntax error at or near \"window\"" "42601"

theorem checkNames_window (names : List String) :
    checkNames ("window" :: names) = .error windowReserved := by
  rw [checkNames, Statements.checkNames_cons_of_reserved (by decide +kernel)]
  rfl

@[simp] theorem recalculateWeeklyPoints_eq (db : Db) (weekStart : Int) :
    db.recalculateWeeklyPoints weekStart = .error windowReserved := by
  rw [Db.recalculateWeeklyPoints, checkNames_window]
  rfl

/-- `PARTITION BY league, group_id`. -/
def Db.group (db : Db) (la : LeagueAssignment) : List LeagueAssignment :=
  db.assignments.filter fun other =>
    other.weekStart = la.weekStart && other.league = la.league && other.groupId = la.groupId

/-- `ORDER BY weekly_points DESC, user_id ASC`. -/
def pointsKey (la : LeagueAssignment) : Intᵒᵈ ×ₗ Nat :=
  toLex (OrderDual.toDual la.weeklyPoints, la.userId)

/-- What `rankAndFlagWeek` writes to a row. -/
def Db.setRank (db : Db) (la : LeagueAssignment) : LeagueAssignment :=
  let rnk := Sql.rowNumber pointsKey (db.group la) la
  let grpCount := (db.group la).length
  { la with
    rankInGroup := some rnk
    promoted := (la.league = .bronze || la.league = .silver) && rnk ≤ 3
    demoted := (la.league = .silver || la.league = .gold) && grpCount - 3 < rnk }

def Db.rankAndFlagWeek (db : Db) (weekStart : Int) : Db := db.updateWeek weekStart db.setRank

/-- The procedure `recalculate_league`: an assignment without a sum keeps its points. -/
def Db.recalculateLeague (db : Db) (weekStart : Int) : Db :=
  (db.updateWeek weekStart fun la =>
    { la with
      weeklyPoints := (db.sums weekStart la.userId).getD la.weeklyPoints }).rankAndFlagWeek
    weekStart

/-! ### What the points depend on -/

/-- Sessions that are not completed have no part in the points. -/
theorem sums_congr {db db' : Db} (husers : db'.users = db.users)
    (hleagues : db'.leagues = db.leagues) (hassignments : db'.assignments = db.assignments)
    (hsessions : db'.sessions.filter GameSession.isCompleted =
      db.sessions.filter GameSession.isCompleted) (weekStart : Int) :
    db'.sums weekStart = db.sums weekStart := by
  have hinWeek (d : Db) (userId : Uuid) :
      (d.sessions.filter fun s => s.inWeek weekStart && s.userId = some userId) =
        (d.sessions.filter GameSession.isCompleted).filter fun s =>
          s.inWeek weekStart && s.userId = some userId := by
    rw [List.filter_filter]
    refine List.filter_congr fun s _ => ?_
    cases hcompleted : s.isCompleted <;> simp [GameSession.inWeek, hcompleted]
  funext userId
  simp only [Db.sums, Db.weekPoints, Db.leaguesOf, hinWeek, hsessions, husers, hleagues,
    hassignments]

theorem rankAndFlagWeek_congr {db db' : Db} (hassignments : db'.assignments = db.assignments)
    (weekStart : Int) :
    (db'.rankAndFlagWeek weekStart).assignments =
      (db.rankAndFlagWeek weekStart).assignments := by
  have hgroup : db'.group = db.group := by
    funext la
    rw [Db.group, Db.group, hassignments]
  simp only [Db.rankAndFlagWeek, Db.updateWeek, Db.setRank, hgroup, hassignments]

theorem recalculateLeague_congr {db db' : Db} (hassignments : db'.assignments = db.assignments)
    {weekStart : Int} (hsums : db'.sums weekStart = db.sums weekStart) :
    (db'.recalculateLeague weekStart).assignments =
      (db.recalculateLeague weekStart).assignments := by
  refine rankAndFlagWeek_congr ?_ weekStart
  simp only [Db.updateWeek, hassignments, hsums]

end BrandBlitz.Competition
