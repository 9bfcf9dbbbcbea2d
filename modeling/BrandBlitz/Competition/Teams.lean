import BrandBlitz.Payout.Allocation
import BrandBlitz.Competition.Tables

/-!
# BrandBlitz.Competition.Teams

**The leaderboard of the teams of a challenge** (`getChallengeTeamLeaderboard` and
`splitTeamPayout` in `apps/api/src/db/queries/challenge-teams.ts`) **and the payouts that follow
it** (`calculateTeamPayoutAllocations` in `apps/api/src/services/payout.ts`).

A member counts with the best score of a session of the challenge that has a time of completion
and no flag; an abandoned session has one too.

* Teams that are equal in the order come in the order of the table, and so do members.
* The average is the decimal number that the query returns.
-/

namespace BrandBlitz.Competition

open BrandBlitz.Lib
open BrandBlitz.Paging (Uuid)
open BrandBlitz.Payout (calculatePayoutShareStroops)

/-! ### Scores -/

/-- The conditions on a session in `user_challenge_scores`. -/
def GameSession.countsFor (challengeId userId : Uuid) (s : GameSession) : Bool :=
  s.userId = some userId && s.challengeId = challengeId && !s.flagged && s.completedAt.isSome

/-- The score of a member, which is 0 without a session. -/
def Db.userScore (db : Db) (challengeId userId : Uuid) : Int :=
  Sql.maxOrZero ((db.sessions.filter (·.countsFor challengeId userId)).map fun s => s.totalScore)

/-- An object of `members_json`. -/
structure TeamMemberScore where
  userId : Uuid
  username : Text
  displayName : Text
  avatarUrl : Text
  score : Int
deriving DecidableEq, Repr

/-- The rows of `team_user_scores` of a team. -/
def Db.teamUserScores (db : Db) (team : ChallengeTeam) : List TeamMemberScore :=
  (db.teamMembers.filter fun tm => tm.teamId = team.id).filterMap fun tm =>
    (db.users tm.userId).map fun u =>
      ⟨tm.userId, u.username, u.displayName, u.avatarUrl,
        db.userScore team.challengeId tm.userId⟩

/-! ### The leaderboard -/

/-- A group of the query. -/
structure TeamRow where
  team : ChallengeTeam
  memberCount : Nat
  totalScore : Int
  avgScore : ℚ
  members : List TeamMemberScore
deriving DecidableEq, Repr

/-- A team without members is no group. -/
def Db.teamRow (db : Db) (team : ChallengeTeam) : Option TeamRow :=
  match db.teamUserScores team with
  | [] => none
  | rows =>
      let total := (rows.map fun m => m.score).sum
      some
        { team := team
          memberCount := rows.length
          totalScore := total
          avgScore := Sql.roundTo 2 (Sql.div total rows.length)
          members := Sql.orderBy (fun m => OrderDual.toDual m.score) rows }

/-- `ORDER BY total_score DESC, member_count DESC`. -/
def teamKey (row : TeamRow) : Intᵒᵈ ×ₗ Natᵒᵈ :=
  toLex (OrderDual.toDual row.totalScore, OrderDual.toDual row.memberCount)

structure TeamLeaderboardEntry where
  rank : Nat
  teamId : Uuid
  teamName : Text
  challengeId : Uuid
  memberCount : Nat
  totalScore : Int
  avgScore : ℚ
  totalEarnedUsdc : Nat
  members : List TeamMemberScore
deriving DecidableEq, Repr

def teamLeaderboardEntry (idx : Nat) (row : TeamRow) : TeamLeaderboardEntry where
  rank := idx + 1
  teamId := row.team.id
  teamName := row.team.name
  challengeId := row.team.challengeId
  memberCount := row.memberCount
  totalScore := row.totalScore
  avgScore := row.avgScore
  totalEarnedUsdc := 0
  members := row.members

def Db.getChallengeTeamLeaderboard (db : Db) (challengeId : Uuid) (limit : Nat) :
    List TeamLeaderboardEntry :=
  let rows := (db.teams.filter fun team => team.challengeId = challengeId).filterMap db.teamRow
  ((Sql.orderBy teamKey rows).take limit).mapIdx teamLeaderboardEntry

/-! ### Payouts of teams -/

/-- What `splitTeamPayout` reads of a member. -/
structure PayoutMember where
  userId : Uuid
  address : Text
  score : Int

structure TeamSplit where
  userId : Uuid
  address : Text
  amountStroops : Nat
deriving DecidableEq, Repr

/-- The loop over the members with points: the last one gets what is left. -/
def splitByScore (teamTotalStroops totalPoints : Nat) : Nat → List PayoutMember → List TeamSplit
  | _, [] => []
  | allocated, [m] =>
      if allocated < teamTotalStroops then
        [⟨m.userId, m.address, teamTotalStroops - allocated⟩]
      else []
  | allocated, m :: rest =>
      let share := calculatePayoutShareStroops m.score.toNat totalPoints teamTotalStroops
      ⟨m.userId, m.address, share⟩ ::
        splitByScore teamTotalStroops totalPoints (allocated + share) rest

/-- The loop of the equal split. -/
def splitEqually (teamTotalStroops perMember : Nat) : Nat → List PayoutMember → List TeamSplit
  | _, [] => []
  | allocated, [m] => [⟨m.userId, m.address, teamTotalStroops - allocated⟩]
  | allocated, m :: rest =>
      ⟨m.userId, m.address, perMember⟩ ::
        splitEqually teamTotalStroops perMember (allocated + perMember) rest

def splitTeamPayout (teamTotalStroops : Nat) (members : List PayoutMember) : List TeamSplit :=
  let eligible := members.filter fun m => !(trim m.address).isEmpty
  let totalPoints := (eligible.map fun m => m.score).sum
  let perMember := teamTotalStroops / eligible.length
  if eligible.isEmpty || teamTotalStroops = 0 then []
  else if 0 < totalPoints then
    (splitByScore teamTotalStroops totalPoints.toNat 0 eligible).filter
      fun a => 0 < a.amountStroops
  else if perMember = 0 then []
  else (splitEqually teamTotalStroops perMember 0 eligible).filter fun a => 0 < a.amountStroops

/-- The address of a member of the challenge's teams, `""` without one. -/
def Db.memberAddress (db : Db) (challengeId userId : Uuid) : Text :=
  if db.teamMembers.any fun tm => tm.challengeId = challengeId && tm.userId = userId then
    ((db.users userId).bind fun u => u.stellarAddress).getD []
  else []

/-- What the members of a team get. -/
def Db.teamAllocations (db : Db) (challengeId : Uuid) (totalPoints playerPoolStroops : Nat)
    (team : TeamLeaderboardEntry) : List (TeamSplit × Uuid) :=
  let teamStroops :=
    calculatePayoutShareStroops team.totalScore.toNat totalPoints playerPoolStroops
  if team.totalScore ≤ 0 || teamStroops = 0 then []
  else
    let members := team.members.map fun m =>
      (⟨m.userId, db.memberAddress challengeId m.userId, m.score⟩ : PayoutMember)
    (splitTeamPayout teamStroops members).map fun split => (split, team.teamId)

def Db.calculateTeamPayoutAllocations (db : Db) (challengeId : Uuid) (playerPoolStroops : Nat) :
    List (TeamSplit × Uuid) :=
  let teamEntries := db.getChallengeTeamLeaderboard challengeId 100
  let totalPoints := (teamEntries.map fun team => team.totalScore).sum
  if teamEntries.isEmpty || playerPoolStroops = 0 || totalPoints ≤ 0 then []
  else
    teamEntries.flatMap (db.teamAllocations challengeId totalPoints.toNat playerPoolStroops)

/-! ### What the leaderboard depends on -/

/-- Sessions without points have no part in the scores. -/
theorem userScore_congr {db db' : Db} {keep : GameSession → Bool}
    (hsessions : db'.sessions = db.sessions.filter keep)
    (hzero : ∀ s ∈ db.sessions, keep s = false → s.totalScore = 0) (challengeId userId : Uuid) :
    db'.userScore challengeId userId = db.userScore challengeId userId := by
  unfold Db.userScore
  rw [hsessions, List.filter_comm]
  refine Sql.maxOrZero_filter (fun s _ => s.totalScore_range.1) ?_
  intro s hs hkeep
  exact hzero s (List.mem_filter.mp hs).1 hkeep

section Congr
variable {db db' : Db} (husers : db'.users = db.users) (hteams : db'.teams = db.teams)
  (hmembers : db'.teamMembers = db.teamMembers) (hscores : db'.userScore = db.userScore)
include husers hteams hmembers hscores

theorem getChallengeTeamLeaderboard_congr (challengeId : Uuid) (limit : Nat) :
    db'.getChallengeTeamLeaderboard challengeId limit =
      db.getChallengeTeamLeaderboard challengeId limit := by
  have hrow : db'.teamRow = db.teamRow := by
    funext team
    simp only [Db.teamRow, Db.teamUserScores, husers, hmembers, hscores]
  simp only [Db.getChallengeTeamLeaderboard, hteams, hrow]

theorem calculateTeamPayoutAllocations_congr (challengeId : Uuid) (playerPoolStroops : Nat) :
    db'.calculateTeamPayoutAllocations challengeId playerPoolStroops =
      db.calculateTeamPayoutAllocations challengeId playerPoolStroops := by
  have haddress : db'.memberAddress = db.memberAddress := by
    funext challengeId userId
    simp only [Db.memberAddress, husers, hmembers]
  have hteam : db'.teamAllocations = db.teamAllocations := by
    funext challengeId totalPoints playerPoolStroops team
    simp only [Db.teamAllocations, haddress]
  simp only [Db.calculateTeamPayoutAllocations, hteam,
    getChallengeTeamLeaderboard_congr husers hteams hmembers hscores]

end Congr

end BrandBlitz.Competition
