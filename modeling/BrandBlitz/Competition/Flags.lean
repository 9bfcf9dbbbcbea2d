import BrandBlitz.Competition.Finalisation

/-!
# BrandBlitz.Competition.Flags

**Promotion and demotion at the end of a week** (`rankAndFlagWeek` in
`apps/api/src/db/queries/leagues.ts` and the last statement of `recalculate_league`).

The first three of a bronze or silver group are promoted, the last three of a silver or gold
group are demoted. Both are thresholds of the same ranking, so the flags follow the points; but
the first three and the last three of a silver group are different players only from six members
on.
-/

namespace BrandBlitz.Competition

open BrandBlitz.Lib

/-! ### What the flags should say -/

/-- The flags of a week follow the points, and nobody has both. -/
structure Db.FlagsConsistent (db : Db) (weekStart : Int) : Prop where
  /-- the ranks are those from 1 to the size of the group, each for one member -/
  ranks : ∀ league groupId,
    Set.BijOn LeagueAssignment.rankInGroup {la | la ∈ db.members weekStart league groupId}
      (some '' Set.Icc 1 (db.members weekStart league groupId).length)
  ranks_monotone : ∀ league groupId, ∀ a ∈ db.members weekStart league groupId,
    ∀ b ∈ db.members weekStart league groupId, ∀ i j, a.rankInGroup = some i →
      b.rankInGroup = some j → i ≤ j → b.weeklyPoints ≤ a.weeklyPoints
  not_both : ∀ la ∈ db.assignments, la.weekStart = weekStart → ¬ (la.promoted ∧ la.demoted)
  promoted_ahead : ∀ league groupId, league = .bronze ∨ league = .silver →
    ∀ a ∈ db.members weekStart league groupId, ∀ b ∈ db.members weekStart league groupId,
      a.promoted → ¬ b.promoted → b.weeklyPoints ≤ a.weeklyPoints
  demoted_behind : ∀ league groupId, ∀ a ∈ db.members weekStart league groupId,
    ∀ b ∈ db.members weekStart league groupId, a.demoted → ¬ b.demoted →
      a.weeklyPoints ≤ b.weeklyPoints

/-- Has every silver group of the week six members, if it has any? -/
def Db.SilverGroupsLarge (db : Db) (weekStart : Int) : Prop :=
  ∀ groupId, db.members weekStart .silver groupId ≠ [] →
    6 ≤ (db.members weekStart .silver groupId).length

/-! ### The flags of a row -/

section
variable {db : Db} {weekStart : Int} {league : LeagueName} {groupId : Int}

/-- The row number of a member in its group. -/
def Db.rnk (db : Db) (la : LeagueAssignment) : Nat := Sql.rowNumber pointsKey (db.group la) la

@[simp] theorem setRank_rankInGroup (la : LeagueAssignment) :
    (db.setRank la).rankInGroup = some (db.rnk la) := rfl

@[simp] theorem setRank_weeklyPoints (la : LeagueAssignment) :
    (db.setRank la).weeklyPoints = la.weeklyPoints := rfl

theorem setRank_promoted (la : LeagueAssignment) :
    (db.setRank la).promoted = true ↔
      (la.league = .bronze ∨ la.league = .silver) ∧ db.rnk la ≤ 3 := by
  simp [Db.setRank, Db.rnk]

theorem setRank_demoted (la : LeagueAssignment) :
    (db.setRank la).demoted = true ↔
      (la.league = .silver ∨ la.league = .gold) ∧ (db.group la).length - 3 < db.rnk la := by
  simp [Db.setRank, Db.rnk]

/-- The group of a member. -/
theorem group_eq_members {la : LeagueAssignment} (hla : la ∈ db.members weekStart league groupId) :
    db.group la = db.members weekStart league groupId := by
  obtain ⟨-, rfl, rfl, rfl⟩ := mem_members.mp hla
  rfl

theorem rnk_eq {la : LeagueAssignment} (hla : la ∈ db.members weekStart league groupId) :
    db.rnk la = Sql.rowNumber pointsKey (db.members weekStart league groupId) la := by
  rw [Db.rnk, group_eq_members hla]

theorem rnk_bijOn (h : db.PlacesUnique) (weekStart : Int) (league : LeagueName) (groupId : Int) :
    Set.BijOn db.rnk {la | la ∈ db.members weekStart league groupId}
      (Set.Icc 1 (db.members weekStart league groupId).length) :=
  (Sql.rowNumber_bijOn (members_keyUnique h weekStart league groupId)).congr
    fun _ hla => (rnk_eq hla).symm

/-- Who stands before another has at least as many points. -/
theorem points_le_of_rnk_le (h : db.PlacesUnique) {a b : LeagueAssignment}
    (ha : a ∈ db.members weekStart league groupId)
    (hb : b ∈ db.members weekStart league groupId) (hle : db.rnk a ≤ db.rnk b) :
    b.weeklyPoints ≤ a.weeklyPoints := by
  have hnot : ¬ pointsKey b < pointsKey a := by
    rw [← Sql.rowNumber_lt_iff (members_keyUnique h weekStart league groupId) hb ha, ← rnk_eq ha,
      ← rnk_eq hb]
    exact not_lt.mpr hle
  by_contra hpoints
  have hlt : OrderDual.toDual b.weeklyPoints < OrderDual.toDual a.weeklyPoints :=
    OrderDual.toDual_lt_toDual.mpr (not_le.mp hpoints)
  exact hnot (Prod.Lex.toLex_lt_toLex.mpr (.inl hlt))

/-! ### What is always so -/

/-- The ranks that are stored are the row numbers. -/
theorem ranks_bijOn (h : db.PlacesUnique) (league : LeagueName) (groupId : Int) :
    Set.BijOn LeagueAssignment.rankInGroup
      {la | la ∈ (db.rankAndFlagWeek weekStart).members weekStart league groupId}
      (some '' Set.Icc 1 ((db.rankAndFlagWeek weekStart).members weekStart league groupId).length)
    := by
  have hranked : {la | la ∈ (db.rankAndFlagWeek weekStart).members weekStart league groupId} =
      db.setRank '' {la | la ∈ db.members weekStart league groupId} := by
    ext la
    simp [members_rankAndFlagWeek]
  have hsome := (rnk_bijOn h weekStart league groupId).image_eq
  rw [hranked, members_rankAndFlagWeek, List.length_map, ← hsome]
  refine ⟨?_, ?_, ?_⟩
  · rintro _ ⟨la, hla, rfl⟩
    exact ⟨db.rnk la, ⟨la, hla, rfl⟩, rfl⟩
  · rintro _ ⟨a, ha, rfl⟩ _ ⟨b, hb, rfl⟩ hab
    exact congrArg db.setRank ((rnk_bijOn h weekStart league groupId).injOn ha hb
      (Option.some.inj hab))
  · rintro _ ⟨_, ⟨la, hla, rfl⟩, rfl⟩
    exact ⟨db.setRank la, ⟨la, hla, rfl⟩, rfl⟩

/-- A member after the ranking is a ranked member. -/
theorem mem_members_rankAndFlagWeek {la : LeagueAssignment}
    (hla : la ∈ (db.rankAndFlagWeek weekStart).members weekStart league groupId) :
    ∃ before ∈ db.members weekStart league groupId, db.setRank before = la := by
  rw [members_rankAndFlagWeek] at hla
  exact List.mem_map.mp hla

/-- Three ranks are before the others. -/
theorem promoted_points (h : db.PlacesUnique) (hleague : league = .bronze ∨ league = .silver)
    {a b : LeagueAssignment} (ha : a ∈ db.members weekStart league groupId)
    (hb : b ∈ db.members weekStart league groupId) (hpromoted : (db.setRank a).promoted)
    (hnot : ¬ (db.setRank b).promoted) : b.weeklyPoints ≤ a.weeklyPoints := by
  rw [setRank_promoted] at hpromoted hnot
  have hbLeague : b.league = .bronze ∨ b.league = .silver := by
    rwa [(mem_members.mp hb).2.2.1]
  have hlast : ¬ db.rnk b ≤ 3 := fun hrnk => hnot ⟨hbLeague, hrnk⟩
  have hfirst := hpromoted.2
  exact points_le_of_rnk_le h ha hb (by omega)

/-- Three ranks are behind the others. -/
theorem demoted_points (h : db.PlacesUnique) {a b : LeagueAssignment}
    (ha : a ∈ db.members weekStart league groupId)
    (hb : b ∈ db.members weekStart league groupId) (hdemoted : (db.setRank a).demoted)
    (hnot : ¬ (db.setRank b).demoted) : a.weeklyPoints ≤ b.weeklyPoints := by
  rw [setRank_demoted, group_eq_members ha, (mem_members.mp ha).2.2.1] at hdemoted
  rw [setRank_demoted, group_eq_members hb, (mem_members.mp hb).2.2.1] at hnot
  have hfirst : ¬ (db.members weekStart league groupId).length - 3 < db.rnk b :=
    fun hrnk => hnot ⟨hdemoted.1, hrnk⟩
  have hlast := hdemoted.2
  exact points_le_of_rnk_le h hb ha (by omega)

/-! ### When nobody is promoted and demoted -/

/-- With both flags, a member is one of the first and one of the last three of a silver group. -/
theorem both_flags_iff {la : LeagueAssignment} (hla : la ∈ db.members weekStart league groupId) :
    ((db.setRank la).promoted ∧ (db.setRank la).demoted) ↔
      league = .silver ∧ db.rnk la ≤ 3 ∧
        (db.members weekStart league groupId).length - 3 < db.rnk la := by
  rw [setRank_promoted, setRank_demoted, group_eq_members hla, (mem_members.mp hla).2.2.1]
  cases league <;> simp

/-- A silver group of one to five members has somebody with both flags. -/
theorem exists_both_flags (h : db.PlacesUnique)
    (hsome : db.members weekStart .silver groupId ≠ [])
    (hsmall : (db.members weekStart .silver groupId).length < 6) :
    ∃ la ∈ db.members weekStart .silver groupId,
      (db.setRank la).promoted ∧ (db.setRank la).demoted := by
  have hpos := List.length_pos_iff.mpr hsome
  -- the third of the group, or its last member
  obtain ⟨la, hla, hrnk⟩ := (rnk_bijOn h weekStart .silver groupId).surjOn
    (show min 3 (db.members weekStart .silver groupId).length ∈
      Set.Icc 1 (db.members weekStart .silver groupId).length from ⟨by omega, by omega⟩)
  refine ⟨la, hla, (both_flags_iff hla).mpr ⟨rfl, ?_, ?_⟩⟩
  · omega
  · omega

theorem not_both_iff (h : db.PlacesUnique) :
    (∀ la ∈ (db.rankAndFlagWeek weekStart).assignments, la.weekStart = weekStart →
      ¬ (la.promoted ∧ la.demoted)) ↔ db.SilverGroupsLarge weekStart := by
  constructor
  · intro hnot groupId hsome
    by_contra hsmall
    obtain ⟨la, hla, hboth⟩ := exists_both_flags h hsome (not_le.mp hsmall)
    have hranked : db.setRank la ∈
        (db.rankAndFlagWeek weekStart).members weekStart .silver groupId := by
      rw [members_rankAndFlagWeek]
      exact List.mem_map_of_mem hla
    exact hnot _ (mem_members.mp hranked).1 (mem_members.mp hranked).2.1 hboth
  · intro hlarge la hla hweek hboth
    obtain ⟨before, hbefore, rfl, rfl⟩ := mem_updateWeek (setRank_scoring db) hla hweek
    have hmem : before ∈ db.members before.weekStart before.league before.groupId :=
      mem_members.mpr ⟨hbefore, rfl, rfl, rfl⟩
    obtain ⟨hsilver, hfirst, hlast⟩ := (both_flags_iff hmem).mp hboth
    rw [hsilver] at hmem hlast
    have hsix := hlarge before.groupId (List.ne_nil_of_mem hmem)
    omega

theorem rankAndFlagWeek_consistent_iff (h : db.PlacesUnique) (weekStart : Int) :
    (db.rankAndFlagWeek weekStart).FlagsConsistent weekStart ↔ db.SilverGroupsLarge weekStart := by
  constructor
  · intro hconsistent
    exact (not_both_iff h).mp hconsistent.not_both
  · intro hlarge
    exact {
      ranks := ranks_bijOn h
      ranks_monotone := by
        intro league groupId a ha b hb i j hi hj hle
        obtain ⟨a, hmemA, rfl⟩ := mem_members_rankAndFlagWeek ha
        obtain ⟨b, hmemB, rfl⟩ := mem_members_rankAndFlagWeek hb
        obtain rfl := Option.some.inj hi
        obtain rfl := Option.some.inj hj
        rw [setRank_weeklyPoints, setRank_weeklyPoints]
        exact points_le_of_rnk_le h hmemA hmemB hle
      not_both := (not_both_iff h).mpr hlarge
      promoted_ahead := by
        intro league groupId hleague a ha b hb hpromoted hnot
        obtain ⟨a, hmemA, rfl⟩ := mem_members_rankAndFlagWeek ha
        obtain ⟨b, hmemB, rfl⟩ := mem_members_rankAndFlagWeek hb
        rw [setRank_weeklyPoints, setRank_weeklyPoints]
        exact promoted_points h hleague hmemA hmemB hpromoted hnot
      demoted_behind := by
        intro league groupId a ha b hb hdemoted hnot
        obtain ⟨a, hmemA, rfl⟩ := mem_members_rankAndFlagWeek ha
        obtain ⟨b, hmemB, rfl⟩ := mem_members_rankAndFlagWeek hb
        rw [setRank_weeklyPoints, setRank_weeklyPoints]
        exact demoted_points h hmemA hmemB hdemoted hnot }

/-- New points leave the groups as large as they were. -/
theorem silverGroupsLarge_updateWeek {set : LeagueAssignment → LeagueAssignment}
    (hset : ∀ la, (set la).scoring = la.scoring) (hgroup : ∀ la, (set la).groupId = la.groupId) :
    (db.updateWeek weekStart set).SilverGroupsLarge weekStart ↔ db.SilverGroupsLarge weekStart := by
  have hlength groupId : ((db.updateWeek weekStart set).members weekStart .silver groupId).length =
      (db.members weekStart .silver groupId).length := by
    rw [Db.members, updateWeek_assignments, List.filter_map, List.length_map, Db.members]
    congr 2
    funext la
    have hscoring := @inWeekOnly_scoring weekStart set hset la
    have hweek : (inWeekOnly weekStart set la).weekStart = la.weekStart :=
      congrArg (fun row => row.2.1) hscoring
    have hleague : (inWeekOnly weekStart set la).league = la.league :=
      congrArg (fun row => row.2.2.1) hscoring
    have hgroupId : (inWeekOnly weekStart set la).groupId = la.groupId := by
      unfold inWeekOnly
      split
      · exact hgroup la
      · rfl
    simp [hweek, hleague, hgroupId]
  simp only [Db.SilverGroupsLarge, ← List.length_pos_iff, hlength]

end

/-- **The flags of a week are consistent just if its silver groups have six members.** -/
theorem flags_consistent_iff (db : Db) (weekStart : Int) (h : db.PlacesUnique) :
    ((db.rankAndFlagWeek weekStart).FlagsConsistent weekStart ↔
      db.SilverGroupsLarge weekStart) ∧
    ((db.recalculateLeague weekStart).FlagsConsistent weekStart ↔
      db.SilverGroupsLarge weekStart) := by
  constructor
  · exact rankAndFlagWeek_consistent_iff h weekStart
  · have hpoints (la : LeagueAssignment) : (db.procedurePoints weekStart la).scoring = la.scoring :=
      rfl
    rw [recalculateLeague_eq,
      rankAndFlagWeek_consistent_iff (placesUnique_updateWeek hpoints h) weekStart]
    exact silverGroupsLarge_updateWeek hpoints fun _ => rfl

/-- A week with one group, whose members have points of their own. -/
def weekOf (league : LeagueName) (players : Nat) : Db where
  userBlocks := []
  payouts _ _ := none
  teams := []
  teamMembers := []
  leagues := []
  assignments := (List.range players).map fun i =>
    { LeagueAssignment.new i i league 1 0 with weeklyPoints := 100 * i }
  sessions := []
  ids_nodup := List.nodup_nil
  users _ := none
  users_known := by simp
  userBadges := []

theorem seven_silver_players_consistent :
    ((weekOf .silver 7).rankAndFlagWeek 0).FlagsConsistent 0 := by
  have hplaces : (weekOf .silver 7).PlacesUnique :=
    (by decide : ((weekOf .silver 7).assignments.map LeagueAssignment.place).Nodup)
  refine (flags_consistent_iff (weekOf .silver 7) 0 hplaces).1.mpr ?_
  intro groupId hsome
  obtain ⟨la, hla⟩ := List.exists_mem_of_ne_nil _ hsome
  obtain ⟨hmem, -, -, rfl⟩ := mem_members.mp hla
  obtain ⟨i, -, rfl⟩ := List.mem_map.mp hmem
  exact (by decide : 6 ≤ ((weekOf .silver 7).members 0 .silver 1).length)

/-- In a silver group of five the third is promoted and demoted. -/
theorem third_of_five_has_both_flags :
    ((weekOf .silver 5).rankAndFlagWeek 0).assignments.map
        (fun la => (la.rankInGroup, la.promoted, la.demoted)) =
      [(some 5, false, true), (some 4, false, true), (some 3, true, true), (some 2, true, false),
        (some 1, true, false)] ∧
    ¬ ((weekOf .silver 5).rankAndFlagWeek 0).FlagsConsistent 0 := by
  have hrows : ((weekOf .silver 5).rankAndFlagWeek 0).assignments.map
      (fun la => (la.rankInGroup, la.promoted, la.demoted)) =
      [(some 5, false, true), (some 4, false, true), (some 3, true, true), (some 2, true, false),
        (some 1, true, false)] := by decide +kernel
  refine ⟨hrows, fun h => ?_⟩
  have hthird : (some 3, true, true) ∈ ((weekOf .silver 5).rankAndFlagWeek 0).assignments.map
      (fun la => (la.rankInGroup, la.promoted, la.demoted)) := by
    rw [hrows]
    decide
  obtain ⟨la, hla, heq⟩ := List.mem_map.mp hthird
  have hweek : ∀ la ∈ ((weekOf .silver 5).rankAndFlagWeek 0).assignments, la.weekStart = 0 := by
    decide +kernel
  simp only [Prod.mk.injEq] at heq
  exact h.not_both la hla (hweek la hla) heq.2

end BrandBlitz.Competition
