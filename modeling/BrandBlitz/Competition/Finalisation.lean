import BrandBlitz.Competition.Leagues
import BrandBlitz.Competition.Seeding
import BrandBlitz.Competition.Statements

/-!
# BrandBlitz.Competition.Finalisation

**The end of a league week**: the procedure `recalculate_league`, the two queries that are to do
the same, and the group that `getCurrentLeagueGroup` is to show while the week runs
(`apps/api/src/db/queries/leagues.ts`).

Only the procedure ends a week. `recalculateWeeklyPoints` and `getCurrentLeagueGroup` name a
common table expression `window`, which PostgreSQL rejects, so the one writes no points and the
other shows no ranks. The rows that the failed queries leave are those of the procedure only where
the week is final already (`Db.IsFinal`).

The rest is about the ranks that `rankAndFlagWeek` writes, as the last statement of the procedure
does.
-/

namespace BrandBlitz.Competition

open BrandBlitz.Lib
open BrandBlitz.Paging (Uuid)

/-! ### The group that is to be shown -/

/-- A row of `scoped`. -/
structure ScopedRow where
  userId : Uuid
  league : LeagueName
  weekStart : Int
  groupId : Int
  weeklyPoints : Int
deriving DecidableEq, Repr

structure LeagueGroupRow extends ScopedRow where
  displayName : Text
  avatarUrl : Text
  rankInGroup : Nat
deriving DecidableEq, Repr

structure LeagueGroup where
  league : LeagueName
  groupId : Int
  group : List LeagueGroupRow
deriving DecidableEq, Repr

/-- `WHERE la.week_start = $1 AND la.league = $2 AND la.group_id = $3`. -/
def Db.members (db : Db) (weekStart : Int) (league : LeagueName) (groupId : Int) :
    List LeagueAssignment :=
  db.assignments.filter fun la =>
    la.weekStart = weekStart && la.league = league && la.groupId = groupId

/-- The sums of the members, the only users whose sessions are added up. -/
def Db.memberSums (db : Db) (weekStart : Int) (members : List LeagueAssignment) (userId : Uuid) :
    Option Int :=
  if members.any fun member => member.userId = userId then db.sums weekStart userId else none

def Db.scoped (db : Db) (weekStart : Int) (league : LeagueName) (groupId : Int) :
    List ScopedRow :=
  let members := db.members weekStart league groupId
  members.map fun la =>
    ⟨la.userId, la.league, la.weekStart, la.groupId,
      (db.memberSums weekStart members la.userId).getD 0⟩

/-- `JOIN users u ON u.id = s.user_id WHERE u.deleted_at IS NULL`. -/
def Db.withUser (db : Db) (row : ScopedRow) : Option (ScopedRow × User) :=
  ((db.users row.userId).filter fun user => user.deletedAt.isNone).map fun user => (row, user)

/-- `s.weekly_points DESC, s.user_id ASC`. -/
def ScopedRow.key (row : ScopedRow) : Intᵒᵈ ×ₗ Nat :=
  toLex (OrderDual.toDual row.weeklyPoints, row.userId)

/-- The members of the group, with their ranks. -/
def Db.currentGroup (db : Db) (weekStart : Int) (mine : LeagueAssignment) : List LeagueGroupRow :=
  let rows := (db.scoped weekStart mine.league mine.groupId).filterMap db.withUser
  let ranked := rows.map fun row : ScopedRow × User =>
    { row.1 with
      displayName := row.2.displayName
      avatarUrl := row.2.avatarUrl
      rankInGroup := Sql.rowNumber (fun other : ScopedRow × User => other.1.key) rows row }
  (Sql.orderBy (fun row : LeagueGroupRow => row.key) ranked).take groupSize

/-- The first query finds the group of the user, the second one fails. -/
def Db.getCurrentLeagueGroup (db : Db) (userId : Uuid) (weekStart : Int) :
    Except ApiError (Option LeagueGroup) :=
  match db.assignments.find? fun la => la.userId = userId && la.weekStart = weekStart with
  | none => .ok none
  | some mine => do
    checkNames ["window", "sums", "scoped"]
    return some ⟨mine.league, mine.groupId, db.currentGroup weekStart mine⟩

/-- Who is in a group gets an error. -/
theorem getCurrentLeagueGroup_eq {db : Db} {weekStart : Int} {la : LeagueAssignment}
    (hla : la ∈ db.assignments) (hweek : la.weekStart = weekStart) :
    db.getCurrentLeagueGroup la.userId weekStart = .error windowReserved := by
  unfold Db.getCurrentLeagueGroup
  cases hfound : db.assignments.find? fun other =>
      other.userId = la.userId && other.weekStart = weekStart with
  | none =>
      have hnone := List.find?_eq_none.mp hfound la hla
      simp [hweek] at hnone
  | some mine =>
      simp only [checkNames_window]
      rfl

/-! ### What a final week should be -/

/-- Is no member of the group deleted? -/
def Db.GroupIsLive (db : Db) (weekStart : Int) (league : LeagueName) (groupId : Int) : Prop :=
  ∀ la ∈ db.members weekStart league groupId,
    ∃ user, db.users la.userId = some user ∧ user.deletedAt = none

/-- What the two queries leave, one after the other. -/
def Db.queries (db : Db) (weekStart : Int) : Except ApiError (List LeagueAssignment) := do
  let recalculated ← db.recalculateWeeklyPoints weekStart
  return (recalculated.rankAndFlagWeek weekStart).assignments

/-- The procedure leaves what the two queries leave, and the ranks are those that are shown. -/
structure Db.Finalised (db : Db) (weekStart : Int) : Prop where
  same : db.queries weekStart = .ok (db.recalculateLeague weekStart).assignments
  shown : ∀ la ∈ (db.recalculateLeague weekStart).assignments, la.weekStart = weekStart →
    (db.recalculateLeague weekStart).GroupIsLive weekStart la.league la.groupId →
      ∃ group, (db.recalculateLeague weekStart).getCurrentLeagueGroup la.userId weekStart =
          .ok (some group) ∧
        ∀ row ∈ group.group, row.userId = la.userId → la.rankInGroup = some row.rankInGroup

/-- The rows after an attempt to run the queries: one that fails has written nothing. -/
def Db.afterQueries (db : Db) (weekStart : Int) : List LeagueAssignment :=
  match db.queries weekStart with
  | .ok rows => rows
  | .error _ => db.assignments

/-- Every assignment of the week has the points of its sessions, if it has any, and the rank and
the flags that go with the points. -/
structure Db.IsFinal (db : Db) (weekStart : Int) : Prop where
  points : ∀ la ∈ db.assignments, la.weekStart = weekStart →
    ∀ points ∈ db.sums weekStart la.userId, la.weeklyPoints = points
  rank : ∀ la ∈ db.assignments, la.weekStart = weekStart →
    la.rankInGroup = some (Sql.rowNumber pointsKey (db.group la) la)
  promoted : ∀ la ∈ db.assignments, la.weekStart = weekStart →
    (la.promoted = true ↔ (la.league = .bronze ∨ la.league = .silver) ∧
      Sql.rowNumber pointsKey (db.group la) la ≤ 3)
  demoted : ∀ la ∈ db.assignments, la.weekStart = weekStart →
    (la.demoted = true ↔ (la.league = .silver ∨ la.league = .gold) ∧
      (db.group la).length - 3 < Sql.rowNumber pointsKey (db.group la) la)

/-! ### Changes of a week -/

/-- What the sums read of an assignment. -/
def LeagueAssignment.scoring (la : LeagueAssignment) :
    Uuid × Int × LeagueName × Option Uuid × Option ScoringWeights :=
  (la.userId, la.weekStart, la.league, la.leagueId, la.scoringWeights)

/-- The change of a row that `updateWeek` makes. -/
def inWeekOnly (weekStart : Int) (set : LeagueAssignment → LeagueAssignment)
    (la : LeagueAssignment) : LeagueAssignment :=
  if la.weekStart = weekStart then set la else la

theorem updateWeek_assignments (db : Db) (weekStart : Int)
    (set : LeagueAssignment → LeagueAssignment) :
    (db.updateWeek weekStart set).assignments = db.assignments.map (inWeekOnly weekStart set) :=
  rfl

section
variable {db : Db} {weekStart : Int} {set : LeagueAssignment → LeagueAssignment}

theorem inWeekOnly_scoring (hset : ∀ la, (set la).scoring = la.scoring) (la : LeagueAssignment) :
    (inWeekOnly weekStart set la).scoring = la.scoring := by
  unfold inWeekOnly
  split
  · exact hset la
  · rfl

/-- The rows of the week are changed ones. -/
theorem mem_updateWeek (hset : ∀ la, (set la).scoring = la.scoring) {la : LeagueAssignment}
    (hla : la ∈ (db.updateWeek weekStart set).assignments) (hweek : la.weekStart = weekStart) :
    ∃ before ∈ db.assignments, before.weekStart = weekStart ∧ la = set before := by
  rw [updateWeek_assignments] at hla
  obtain ⟨before, hbefore, rfl⟩ := List.mem_map.mp hla
  have hsame : before.weekStart = weekStart :=
    (congrArg (fun row => row.2.1) (inWeekOnly_scoring hset before)).symm.trans hweek
  exact ⟨before, hbefore, hsame, if_pos hsame⟩

end

/-! ### Ranks -/

theorem setRank_scoring (db : Db) (la : LeagueAssignment) :
    (db.setRank la).scoring = la.scoring := rfl

/-- `UNIQUE (user_id, week_start)`. -/
def Db.PlacesUnique (db : Db) : Prop := (db.assignments.map LeagueAssignment.place).Nodup

section
variable {db : Db} {weekStart : Int} {league : LeagueName} {groupId : Int}

theorem mem_members {la : LeagueAssignment} :
    la ∈ db.members weekStart league groupId ↔
      la ∈ db.assignments ∧ la.weekStart = weekStart ∧ la.league = league ∧
        la.groupId = groupId := by
  rw [Db.members, List.mem_filter]
  simp [and_assoc]

/-- The members of a group have different keys. -/
theorem members_keyUnique (h : db.PlacesUnique) (weekStart : Int) (league : LeagueName)
    (groupId : Int) : Sql.KeyUnique pointsKey (db.members weekStart league groupId) := by
  have hplaces : ((db.members weekStart league groupId).map LeagueAssignment.place).Nodup :=
    h.sublist (List.filter_sublist.map _)
  have hpairs : (db.members weekStart league groupId).map LeagueAssignment.place =
      ((db.members weekStart league groupId).map fun la => (ofLex (pointsKey la)).2).map
        fun userId => (userId, weekStart) := by
    rw [List.map_map]
    refine List.map_congr_left fun la hla => ?_
    rw [LeagueAssignment.place, (mem_members.mp hla).2.1]
    rfl
  rw [hpairs] at hplaces
  exact .of_column (fun key => (ofLex key).2) (hplaces.of_map _)

/-- The rows of a ranked group. -/
theorem members_rankAndFlagWeek :
    (db.rankAndFlagWeek weekStart).members weekStart league groupId =
      (db.members weekStart league groupId).map db.setRank := by
  rw [Db.rankAndFlagWeek, Db.members, updateWeek_assignments, List.filter_map, Db.members]
  have hkept : ((fun la : LeagueAssignment =>
      la.weekStart = weekStart && la.league = league && la.groupId = groupId) ∘
        inWeekOnly weekStart db.setRank) =
      fun la => la.weekStart = weekStart && la.league = league && la.groupId = groupId := by
    funext la
    by_cases hweek : la.weekStart = weekStart <;> simp [inWeekOnly, hweek, Db.setRank]
  rw [hkept]
  refine List.map_congr_left fun la hla => ?_
  rw [inWeekOnly, if_pos (mem_members.mp hla).2.1]

/-! ### When the end of a week is recomputed -/

theorem placesUnique_updateWeek {set : LeagueAssignment → LeagueAssignment}
    (hset : ∀ la, (set la).scoring = la.scoring) (h : db.PlacesUnique) :
    (db.updateWeek weekStart set).PlacesUnique := by
  have hplace : ∀ la, (inWeekOnly weekStart set la).place = la.place := by
    intro la
    exact congrArg (fun row => (row.1, row.2.1)) (inWeekOnly_scoring hset la)
  rw [Db.PlacesUnique, updateWeek_assignments, List.map_map, Function.comp_def,
    List.map_congr_left fun la _ => hplace la]
  exact h

/-- The ranking leaves the points. -/
theorem rankAndFlagWeek_points (db : Db) (weekStart : Int) :
    (db.rankAndFlagWeek weekStart).assignments.map LeagueAssignment.weeklyPoints =
      db.assignments.map LeagueAssignment.weeklyPoints := by
  rw [Db.rankAndFlagWeek, updateWeek_assignments, List.map_map]
  refine List.map_congr_left fun la _ => ?_
  show (inWeekOnly weekStart db.setRank la).weeklyPoints = la.weeklyPoints
  unfold inWeekOnly
  split <;> rfl

/-- The points that the procedure writes. -/
def Db.procedurePoints (db : Db) (weekStart : Int) (la : LeagueAssignment) : LeagueAssignment :=
  { la with weeklyPoints := (db.sums weekStart la.userId).getD la.weeklyPoints }

theorem recalculateLeague_eq (db : Db) (weekStart : Int) :
    db.recalculateLeague weekStart =
      (db.updateWeek weekStart (db.procedurePoints weekStart)).rankAndFlagWeek weekStart := rfl

theorem queries_eq (db : Db) (weekStart : Int) : db.queries weekStart = .error windowReserved := by
  rw [Db.queries, recalculateWeeklyPoints_eq]
  rfl

theorem updateWeek_eq_self_iff {set : LeagueAssignment → LeagueAssignment} :
    (db.updateWeek weekStart set).assignments = db.assignments ↔
      ∀ la ∈ db.assignments, la.weekStart = weekStart → set la = la := by
  rw [updateWeek_assignments]
  conv_lhs => rhs; rw [← List.map_id db.assignments]
  rw [List.map_inj_left]
  refine forall₂_congr fun la _ => ?_
  by_cases hweek : la.weekStart = weekStart
  · simp [inWeekOnly, hweek]
  · simp [inWeekOnly, hweek]

/-- The points are those of the sessions where the procedure writes none. -/
theorem procedurePoints_eq_self_iff {la : LeagueAssignment} :
    db.procedurePoints weekStart la = la ↔
      ∀ points ∈ db.sums weekStart la.userId, la.weeklyPoints = points := by
  unfold Db.procedurePoints
  cases db.sums weekStart la.userId with
  | none => simp
  | some points =>
      simp only [Option.getD_some, Option.mem_def, Option.some.injEq, forall_eq']
      constructor
      · intro h
        exact (congrArg LeagueAssignment.weeklyPoints h).symm
      · rintro rfl
        rfl

theorem setRank_eq_self_iff {la : LeagueAssignment} :
    db.setRank la = la ↔
      la.rankInGroup = some (Sql.rowNumber pointsKey (db.group la) la) ∧
      (la.promoted = true ↔ (la.league = .bronze ∨ la.league = .silver) ∧
        Sql.rowNumber pointsKey (db.group la) la ≤ 3) ∧
      (la.demoted = true ↔ (la.league = .silver ∨ la.league = .gold) ∧
        (db.group la).length - 3 < Sql.rowNumber pointsKey (db.group la) la) := by
  constructor
  · intro h
    have hrank := congrArg LeagueAssignment.rankInGroup h
    have hpromoted := congrArg LeagueAssignment.promoted h
    have hdemoted := congrArg LeagueAssignment.demoted h
    refine ⟨hrank.symm, ?_, ?_⟩
    · rw [← hpromoted]
      simp [Db.setRank]
    · rw [← hdemoted]
      simp [Db.setRank]
  · rintro ⟨hrank, hpromoted, hdemoted⟩
    obtain ⟨id, userId, league, groupId, week, points, rank, promoted, demoted, leagueId, weights⟩ :=
      la
    simp only at hrank hpromoted hdemoted
    simp only [Db.setRank, LeagueAssignment.mk.injEq, true_and, and_true]
    refine ⟨hrank.symm, ?_, ?_⟩
    · exact Bool.eq_iff_iff.mpr (by simpa using hpromoted.symm)
    · exact Bool.eq_iff_iff.mpr (by simpa using hdemoted.symm)

/-- The procedure leaves a week as it is if the week is final. -/
theorem recalculateLeague_eq_self_iff :
    (db.recalculateLeague weekStart).assignments = db.assignments ↔ db.IsFinal weekStart := by
  have hpointsIff : (db.updateWeek weekStart (db.procedurePoints weekStart)).assignments =
      db.assignments ↔ ∀ la ∈ db.assignments, la.weekStart = weekStart →
        ∀ points ∈ db.sums weekStart la.userId, la.weeklyPoints = points := by
    rw [updateWeek_eq_self_iff]
    simp only [procedurePoints_eq_self_iff]
  rw [recalculateLeague_eq]
  constructor
  · intro h
    -- the ranking leaves the points, so the points were right before
    have hpoints : (db.updateWeek weekStart (db.procedurePoints weekStart)).assignments =
        db.assignments := by
      rw [updateWeek_eq_self_iff]
      intro la hla hweek
      have hcolumn := congrArg (List.map LeagueAssignment.weeklyPoints) h
      rw [rankAndFlagWeek_points, updateWeek_assignments, List.map_map] at hcolumn
      have hrow := List.map_inj_left.mp hcolumn la hla
      simp only [Function.comp_apply, inWeekOnly, if_pos hweek] at hrow
      exact congrArg (fun points => { la with weeklyPoints := points }) hrow
    rw [rankAndFlagWeek_congr hpoints, Db.rankAndFlagWeek, updateWeek_eq_self_iff] at h
    have hflags la hla hweek := setRank_eq_self_iff.mp (h la hla hweek)
    exact {
      points := hpointsIff.mp hpoints
      rank := fun la hla hweek => (hflags la hla hweek).1
      promoted := fun la hla hweek => (hflags la hla hweek).2.1
      demoted := fun la hla hweek => (hflags la hla hweek).2.2 }
  · intro h
    rw [rankAndFlagWeek_congr (hpointsIff.mpr h.points), Db.rankAndFlagWeek,
      updateWeek_eq_self_iff]
    exact fun la hla hweek => setRank_eq_self_iff.mpr
      ⟨h.rank la hla hweek, h.promoted la hla hweek, h.demoted la hla hweek⟩

/-- **The queries never end a week**: they fail, nobody in a group is shown a rank, and the rows
that are left are those of the procedure only if the week was final before. -/
theorem never_finalised (db : Db) (weekStart : Int) :
    ¬ db.Finalised weekStart ∧
    (∀ la ∈ db.assignments, la.weekStart = weekStart →
      db.getCurrentLeagueGroup la.userId weekStart = .error windowReserved) ∧
    (db.afterQueries weekStart = (db.recalculateLeague weekStart).assignments ↔
      db.IsFinal weekStart) := by
  refine ⟨fun h => ?_, fun la hla hweek => getCurrentLeagueGroup_eq hla hweek, ?_⟩
  · have hsame := h.same
    rw [queries_eq] at hsame
    cases hsame
  · rw [← recalculateLeague_eq_self_iff, Db.afterQueries, queries_eq]
    exact eq_comm

end

def quietPlayer : User where
  username := "player".toList
  avatarUrl := []
  displayName := "Player".toList
  league := none
  totalEarnedUsdc := "0".toList
  embeddedWalletAddress := none
  stellarAddress := none
  deletedAt := none
  totalScore := 0
  challengesPlayed := 0
  streak := 0
  lastPlayDay := none

/-- A week with one player. -/
def quietWeek : Db where
  userBlocks := []
  payouts _ _ := none
  teams := []
  teamMembers := []
  leagues := []
  assignments := [.new 50 1 .bronze 1 0]
  sessions := []
  ids_nodup := List.nodup_nil
  users userId := if userId = 1 then some quietPlayer else none
  users_known := by simp
  userBadges := []

/-- The player plays one challenge, with three right answers after three seconds each. -/
def playedWeek : Db :=
  quietWeek.run [.claimSession 10 ⟨1, 7, false, none⟩ 0, .markChallengeStarted 10,
    .recordRoundScore 10 .one 140 (some .A) 3000, .recordRoundScore 10 .two 140 (some .A) 3000,
    .recordRoundScore 10 .three 140 (some .A) 3000, .finishSession 10 1000]

/-- The procedure gives the player 760 points and the first rank, the queries fail. -/
theorem points_not_written :
    (playedWeek.recalculateLeague 0).assignments.map
        (fun la => (la.weeklyPoints, la.rankInGroup)) = [(760, some 1)] ∧
      playedWeek.queries 0 = .error windowReserved ∧
      (playedWeek.afterQueries 0).map (fun la => (la.weeklyPoints, la.rankInGroup)) =
        [(0, none)] ∧
      playedWeek.getCurrentLeagueGroup 1 0 = .error windowReserved ∧
      ¬ playedWeek.Finalised 0 := by
  refine ⟨by decide +kernel, by decide +kernel, by decide +kernel, by decide +kernel, fun h => ?_⟩
  exact absurd h.same (by decide +kernel)

end BrandBlitz.Competition
