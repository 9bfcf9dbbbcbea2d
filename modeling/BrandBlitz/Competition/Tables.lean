import BrandBlitz.Paging.Leaderboard

/-!
# BrandBlitz.Competition.Tables

**The tables of the competition**: the sessions of all players, practice sessions among them,
with the users, teams, leagues and badges that are computed from them, and the statements that
a session brings about (`apps/api/src/db/queries/sessions.ts`,
`apps/api/src/db/queries/users.ts`, `apps/api/src/services/streaks.ts`,
`apps/api/src/services/badges.ts`).

* A statement that meets several sessions, such as the one of the timeout job, is one statement
  for each of them here; so is the CTE that deletes an abandoned session and inserts another.
* `BrandBlitz.Sessions.Table` looks at one session, with the columns that the answer route reads.
  What is stored of a round, and how the rounds add up, is taken from there.
* The row of `game_sessions` is the one of `BrandBlitz.Paging.Leaderboard`, the one of `users`
  too, with the columns that the other queries read.
* A statement that the database refuses leaves the tables as they were.
-/

namespace BrandBlitz.Competition

open BrandBlitz.Lib
open BrandBlitz.Paging (Uuid Timestamp LeaderboardDb)
open BrandBlitz.Sessions (Round RoundRecord Status Choice dbError maxInteger scoreOf sumRounds)

/-! ### Rows -/

/-- A row of `game_sessions` with its rows of `session_round_scores`. -/
structure GameSession extends Paging.SessionRow where
  /-- the columns `round_N_answer`, `round_N_score` and `round_N_reaction_ms` -/
  rounds : Round → RoundRecord
  roundScores : Round → Option RoundRecord
  /-- `game_sessions_score_range` -/
  totalScore_range : 0 ≤ totalScore ∧ totalScore ≤ 450

/-- What no statement changes. -/
def GameSession.identity (s : GameSession) : Uuid × Option Uuid × Uuid × Bool :=
  (s.id, s.userId, s.challengeId, s.isPractice)

/-- A row of `users`. -/
structure User extends Paging.User where
  totalScore : Nat
  challengesPlayed : Nat
  streak : Nat
  /-- the day, counted from the epoch -/
  lastPlayDay : Option Int
deriving DecidableEq, Repr

/-- The badges that a session can bring. -/
inductive Badge where
  | firstWin | perfectScore | streak3 | streak7 | wins10
deriving DecidableEq, Repr

structure ChallengeTeam where
  id : Uuid
  challengeId : Uuid
  name : Text
deriving DecidableEq, Repr

structure TeamMember where
  teamId : Uuid
  challengeId : Uuid
  userId : Uuid
deriving DecidableEq, Repr

/-- The object in a column `scoring_weights`; a key may be absent. -/
structure ScoringWeights where
  accuracy : Option ℚ
  speed : Option ℚ
  streak : Option ℚ
deriving DecidableEq, Repr

structure League where
  id : Uuid
  brandId : Option Uuid
  name : Text
  scoringWeights : ScoringWeights
deriving DecidableEq, Repr

/-- `CHECK (league IN ('bronze', 'silver', 'gold'))`. -/
inductive LeagueName where
  | bronze | silver | gold
deriving DecidableEq, Repr

def LeagueName.text : LeagueName → Text
  | .bronze => "bronze".toList
  | .silver => "silver".toList
  | .gold => "gold".toList

structure LeagueAssignment where
  id : Uuid
  userId : Uuid
  league : LeagueName
  groupId : Int
  /-- the day, counted from the epoch -/
  weekStart : Int
  weeklyPoints : Int
  rankInGroup : Option Nat
  promoted : Bool
  demoted : Bool
  leagueId : Option Uuid
  scoringWeights : Option ScoringWeights
deriving DecidableEq, Repr

/-- The tables that no statement of a session writes. -/
structure Setting where
  userBlocks : List (Uuid × Uuid)
  payouts : Uuid → Uuid → Option Nat
  teams : List ChallengeTeam
  teamMembers : List TeamMember
  leagues : List League
  assignments : List LeagueAssignment

structure Db extends Setting where
  sessions : List GameSession
  /-- `PRIMARY KEY` -/
  ids_nodup : (sessions.map fun s => s.id).Nodup
  /-- by id -/
  users : Uuid → Option User
  /-- `user_id REFERENCES users(id)` -/
  users_known : ∀ s ∈ sessions, ∀ userId, s.userId = some userId → (users userId).isSome
  userBadges : List (Uuid × Badge)

/-- What a leaderboard reads. -/
def Db.leaderboardDb (db : Db) : LeaderboardDb where
  sessions := db.sessions.map GameSession.toSessionRow
  ids_nodup := by
    rw [List.map_map]
    exact db.ids_nodup
  users userId := (db.users userId).map User.toUser
  userBlocks := db.userBlocks
  payouts := db.payouts

/-! ### Changes of rows -/

/-- What an `UPDATE game_sessions` does to a row. -/
structure Edit where
  set : GameSession → GameSession
  identity_eq : ∀ s, (set s).identity = s.identity := by intro s; rfl

theorem Edit.id_eq (edit : Edit) (s : GameSession) : (edit.set s).id = s.id :=
  congrArg Prod.fst (edit.identity_eq s)

theorem Edit.userId_eq (edit : Edit) (s : GameSession) : (edit.set s).userId = s.userId :=
  congrArg (fun identity => identity.2.1) (edit.identity_eq s)

theorem Edit.isPractice_eq (edit : Edit) (s : GameSession) :
    (edit.set s).isPractice = s.isPractice :=
  congrArg (fun identity => identity.2.2.2) (edit.identity_eq s)

/-- `WHERE …`. -/
def Edit.restrict (edit : Edit) (condition : GameSession → Bool) : Edit where
  set s := if condition s then edit.set s else s
  identity_eq s := by
    show (if condition s then edit.set s else s).identity = s.identity
    split
    · exact edit.identity_eq s
    · rfl

/-- `UPDATE game_sessions SET … WHERE id = $1`. -/
def Db.update (db : Db) (sessionId : Uuid) (edit : Edit) : Db :=
  let edit := edit.restrict fun s => s.id = sessionId
  { db with
    sessions := db.sessions.map edit.set
    ids_nodup := by
      rw [List.map_map]
      exact (List.map_congr_left fun s _ => edit.id_eq s).symm ▸ db.ids_nodup
    users_known := by
      intro s' hs' userId huser
      obtain ⟨s, hs, rfl⟩ := List.mem_map.mp hs'
      exact db.users_known s hs userId (edit.userId_eq s ▸ huser) }

/-- `DELETE FROM game_sessions WHERE id = $1`. -/
def Db.deleteSession (db : Db) (sessionId : Uuid) : Db :=
  { db with
    sessions := db.sessions.filter fun s => s.id ≠ sessionId
    ids_nodup := db.ids_nodup.sublist (List.filter_sublist.map _)
    users_known := fun s hs => db.users_known s (List.mem_filter.mp hs).1 }

/-- `UPDATE users SET … WHERE id = $1`. -/
def Db.updateUser (db : Db) (userId : Uuid) (set : User → User) : Db :=
  { db with
    users := Function.update db.users userId ((db.users userId).map set)
    users_known := by
      intro s hs id hid
      have hknown := db.users_known s hs id hid
      by_cases hsame : id = userId
      · subst hsame
        rwa [Function.update_self, Option.isSome_map]
      · rwa [Function.update_of_ne hsame] }

/-! ### Statements of a session -/

/-- What a session is inserted with. -/
structure SessionData where
  userId : Uuid
  challengeId : Uuid
  isPractice : Bool
  tierId : Option Uuid

def GameSession.new (id : Uuid) (data : SessionData) (now : Timestamp) : GameSession where
  id := id
  userId := some data.userId
  challengeId := data.challengeId
  status := .warmup
  flagged := false
  isPractice := data.isPractice
  tierId := data.tierId
  totalScore := 0
  completedAt := none
  createdAt := now
  rounds _ := .unanswered
  roundScores _ := none
  totalScore_range := by decide

/-- `UNIQUE (user_id, challenge_id)`: is a session in the way? -/
def GameSession.conflicts (data : SessionData) (s : GameSession) : Bool :=
  s.userId = some data.userId && s.challengeId = data.challengeId

/-- The session is inserted. -/
def Db.insertSession (db : Db) (s : GameSession) (hid : s.id ∉ db.sessions.map fun s => s.id)
    (huser : ∀ userId, s.userId = some userId → (db.users userId).isSome) : Db :=
  { db with
    sessions := db.sessions ++ [s]
    ids_nodup := by
      rw [List.map_append, List.map_singleton]
      exact List.nodup_append.mpr ⟨db.ids_nodup, List.nodup_singleton _,
        fun a ha b hb hab => hid (List.mem_singleton.mp hb ▸ hab ▸ ha)⟩
    users_known := by
      intro s' hs'
      rcases List.mem_append.mp hs' with hs' | hs'
      · exact db.users_known s' hs'
      · exact List.mem_singleton.mp hs' ▸ huser }

/-- `INSERT … ON CONFLICT (user_id, challenge_id) DO NOTHING`, for an id that was drawn. -/
def Db.claimSession (db : Db) (id : Uuid) (data : SessionData) (now : Timestamp) :
    Except ApiError (Option GameSession) × Db :=
  if db.sessions.any (GameSession.conflicts data) then (.ok none, db)
  else if hid : id ∈ db.sessions.map fun s => s.id then
    (.error (dbError "duplicate key value violates unique constraint" "23505"), db)
  else if huser : (db.users data.userId).isSome then
    let s := GameSession.new id data now
    (.ok (some s), db.insertSession s hid fun _ h => Option.some.inj h ▸ huser)
  else
    (.error (dbError "insert or update violates foreign key constraint" "23503"), db)

def Edit.markChallengeStarted : Edit where
  set s := { s with status := .active }

def Edit.recordRoundScore (round : Round) (row : RoundRecord) : Edit where
  set s := { s with
    rounds := Function.update s.rounds round row
    roundScores := Function.update s.roundScores round (some row) }

def Edit.flagSession : Edit where
  set s := { s with flagged := true, status := .flagged }

/-- `abandonSession`, `markAbandonedSessions` and the error handler, on an open session. -/
def Edit.abandonSession (now : Timestamp) : Edit :=
  Edit.restrict ⟨fun s => { s with
    status := .abandoned
    completedAt := s.completedAt <|> some now }, fun _ => rfl⟩
    fun s => s.status = .warmup || s.status = .active

/-- `SELECT * FROM game_sessions WHERE id = $1`. -/
def Db.byId (db : Db) (sessionId : Uuid) : Option GameSession :=
  db.sessions.find? fun s => s.id = sessionId

theorem byId_spec {db : Db} {sessionId : Uuid} {s : GameSession} (h : db.byId sessionId = some s) :
    s ∈ db.sessions ∧ s.id = sessionId :=
  ⟨List.mem_of_find?_eq_some h, by simpa using List.find?_some h⟩

def Db.recordRoundScore (db : Db) (sessionId : Uuid) (round : Round) (score : Nat)
    (answer : Option Choice) (reactionTimeMs : Nat) : Except ApiError Unit × Db :=
  if maxInteger < reactionTimeMs then (.error (dbError "integer out of range" "22003"), db)
  else
    match db.byId sessionId with
    | none =>
        (.error (dbError "insert or update violates foreign key constraint" "23503"), db)
    | some _ =>
        (.ok (), db.update sessionId (.recordRoundScore round ⟨answer, score, some reactionTimeMs⟩))

/-- `SELECT COALESCE(SUM(score)::int, 0) … FROM session_round_scores`. -/
def GameSession.roundTotal (s : GameSession) : Nat :=
  sumRounds fun round => scoreOf (s.roundScores round)

/-- Does `finishSession` finish the session? -/
def GameSession.finishable (s : GameSession) : Bool :=
  s.completedAt.isNone && s.roundTotal ≤ 450

def GameSession.finish (s : GameSession) (now : Timestamp) (h : s.roundTotal ≤ 450) :
    GameSession :=
  { s with
    completedAt := some now
    status := .completed
    totalScore := s.roundTotal
    totalScore_range := ⟨Int.natCast_nonneg _, Int.ofNat_le.mpr h⟩ }

def Edit.finish (now : Timestamp) : Edit where
  set s := if h : s.roundTotal ≤ 450 then s.finish now h else s
  identity_eq s := by
    show (if h : s.roundTotal ≤ 450 then s.finish now h else s).identity = s.identity
    split <;> rfl

/-- `total_score = total_score + $2, challenges_played = challenges_played + 1`. -/
def User.addScore (score : Nat) (user : User) : User :=
  { user with
    totalScore := user.totalScore + score
    challengesPlayed := user.challengesPlayed + 1 }

/-- The second `UPDATE` of `finishSession`; a session may have lost its user. -/
def Db.addScore (db : Db) (userId : Option Uuid) (score : Nat) : Db :=
  match userId with
  | some userId => db.updateUser userId (User.addScore score)
  | none => db

/-- The transaction `finishSession`. It does not ask whether the session is for practice. -/
def Db.finishSession (db : Db) (now : Timestamp) (sessionId : Uuid) :
    Except ApiError GameSession × Db :=
  match db.byId sessionId with
  | none => (.error ⟨"Session not found".toList, none, none⟩, db)
  | some current =>
    if current.completedAt.isSome then (.ok current, db)
    else if h : current.roundTotal ≤ 450 then
      (.ok (current.finish now h),
        (db.update sessionId (.finish now)).addScore current.userId current.roundTotal)
    else (.error (dbError "violates check constraint" "23514"), db)

/-! ### After a session of the competition -/

def Db.findUserById (db : Db) (userId : Uuid) : Option User :=
  (db.users userId).filter fun user => user.deletedAt.isNone

def User.updateStreak (today : Int) (user : User) : User :=
  if user.lastPlayDay = some today then user
  else
    { user with
      streak := if user.lastPlayDay = some (today - 1) then user.streak + 1 else 1
      lastPlayDay := some today }

def Db.updateStreak (db : Db) (userId : Uuid) (today : Int) : Except ApiError Unit × Db :=
  match db.findUserById userId with
  | none => (.error ⟨"User not found".toList, none, none⟩, db)
  | some _ => (.ok (), db.updateUser userId (User.updateStreak today))

def PERFECT_SCORE : Int := 450

/-- The badges that `checkAndAwardSessionBadges` tries to award, in its order. -/
def badgeCandidates (user : User) (totalScore : Int) : List Badge :=
  (if user.challengesPlayed = 1 then [.firstWin] else []) ++
    (if totalScore = PERFECT_SCORE then [.perfectScore] else []) ++
    (if 3 ≤ user.streak then [.streak3] else []) ++
    (if 7 ≤ user.streak then [.streak7] else []) ++
    (if 10 ≤ user.challengesPlayed then [.wins10] else [])

/-- The badges of a user that are awarded, and those that were there before: `awardBadge` for
each of them. -/
def grantBadges (userId : Uuid) (userBadges : List (Uuid × Badge)) :
    List Badge → List Badge × List (Uuid × Badge)
  | [] => ([], userBadges)
  | badge :: badges =>
    if (userId, badge) ∈ userBadges then grantBadges userId userBadges badges
    else
      let (awarded, userBadges) := grantBadges userId (userBadges ++ [(userId, badge)]) badges
      (badge :: awarded, userBadges)

def Db.checkAndAwardSessionBadges (db : Db) (userId : Uuid) (totalScore : Int)
    (isPractice : Bool) : List Badge × Db :=
  if isPractice then ([], db)
  else
    match db.findUserById userId with
    | none => ([], db)
    | some user =>
        let (awarded, userBadges) :=
          grantBadges userId db.userBadges (badgeCandidates user totalScore)
        (awarded, { db with userBadges := userBadges })

end BrandBlitz.Competition
