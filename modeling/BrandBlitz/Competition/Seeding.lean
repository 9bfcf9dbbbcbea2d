import BrandBlitz.Competition.Tables

/-!
# BrandBlitz.Competition.Seeding

**The groups of a league week** (`ensureAssignmentForUserThisWeek` and `seedWeekAssignments` of
`apps/api/src/db/queries/leagues.ts`).

* A player who comes first gets the first group of the league with room. The seeding numbers
  all live users of a league by their id, thirty to a group, and assigns those who have no
  assignment yet to the group of their number. It does not look at who is in a group already.
* All parts of the seeding statement see the tables as they were before it: the assignments
  that it inserts do not exist for its `UPDATE` of the users.
* The ids of new assignments are drawn by the database and are parameters.
-/

namespace BrandBlitz.Competition

open BrandBlitz.Lib
open BrandBlitz.Paging (Uuid Timestamp)
open BrandBlitz.Sessions (dbError)

/-! ### Tables -/

/-- A row of `users`, with the columns that the leagues read. -/
structure LeagueUser where
  id : Uuid
  league : Option LeagueName
  deletedAt : Option Timestamp
deriving DecidableEq, Repr

def LeagueUser.isLive (u : LeagueUser) : Bool := u.deletedAt.isNone

/-- What `UNIQUE (user_id, week_start)` is about. -/
def LeagueAssignment.place (la : LeagueAssignment) : Uuid × Int := (la.userId, la.weekStart)

structure LeagueDb where
  users : List LeagueUser
  /-- `PRIMARY KEY` -/
  users_nodup : (users.map LeagueUser.id).Nodup
  assignments : List LeagueAssignment
  /-- `UNIQUE (user_id, week_start)` -/
  places_nodup : (assignments.map LeagueAssignment.place).Nodup

def LeagueAssignment.new (id userId : Uuid) (league : LeagueName) (groupId weekStart : Int) :
    LeagueAssignment where
  id := id
  userId := userId
  league := league
  groupId := groupId
  weekStart := weekStart
  weeklyPoints := 0
  rankInGroup := none
  promoted := false
  demoted := false
  leagueId := none
  scoringWeights := none

/-- The assignment of a user for a week. -/
def LeagueDb.assignment (db : LeagueDb) (userId : Uuid) (weekStart : Int) :
    Option LeagueAssignment :=
  db.assignments.find? fun la => la.userId = userId && la.weekStart = weekStart

/-- The group of a league in a week. -/
def LeagueDb.group (db : LeagueDb) (weekStart : Int) (league : LeagueName) (groupId : Int) :
    List LeagueAssignment :=
  db.assignments.filter fun la =>
    la.weekStart = weekStart && la.league = league && la.groupId = groupId

section
variable {db : LeagueDb} {userId : Uuid} {weekStart : Int}

theorem assignment_spec {la : LeagueAssignment} (h : db.assignment userId weekStart = some la) :
    la ∈ db.assignments ∧ la.userId = userId ∧ la.weekStart = weekStart := by
  have hspec := List.find?_some h
  rw [Bool.and_eq_true, decide_eq_true_eq, decide_eq_true_eq] at hspec
  exact ⟨List.mem_of_find?_eq_some h, hspec⟩

theorem place_not_mem_iff :
    (userId, weekStart) ∉ db.assignments.map LeagueAssignment.place ↔
      db.assignment userId weekStart = none := by
  rw [LeagueDb.assignment, List.find?_eq_none]
  simp [LeagueAssignment.place]

/-- Users have at most one assignment a week. -/
theorem eq_of_place_eq {la la' : LeagueAssignment} (hla : la ∈ db.assignments)
    (hla' : la' ∈ db.assignments) (h : la.place = la'.place) : la = la' :=
  List.inj_on_of_nodup_map db.places_nodup hla hla' h

theorem assignment_eq_some_iff {la : LeagueAssignment} :
    db.assignment userId weekStart = some la ↔
      la ∈ db.assignments ∧ la.userId = userId ∧ la.weekStart = weekStart := by
  refine ⟨assignment_spec, fun ⟨hla, huser, hweek⟩ => ?_⟩
  cases h : db.assignment userId weekStart with
  | none =>
      refine absurd (List.mem_map.mpr ⟨la, hla, ?_⟩) (place_not_mem_iff.mpr h)
      rw [LeagueAssignment.place, huser, hweek]
  | some found =>
      obtain ⟨hfound, huser', hweek'⟩ := assignment_spec h
      refine congrArg some (eq_of_place_eq hfound hla ?_)
      rw [LeagueAssignment.place, LeagueAssignment.place, huser, hweek, huser', hweek']

end

/-! ### A player comes first -/

/-- `user_league`, of a user who is not deleted. -/
def LeagueDb.userLeague (db : LeagueDb) (userId : Uuid) : Option LeagueName :=
  (db.users.find? fun u => u.id = userId && u.isLive).map fun u => u.league.getD .bronze

/-- The numbers of the groups of a league in a week. -/
def LeagueDb.groupIds (db : LeagueDb) (weekStart : Int) (league : LeagueName) : List Int :=
  (db.assignments.filter fun la => la.weekStart = weekStart && la.league = league).map
    LeagueAssignment.groupId

def groupSize : Nat := 30

/-- The first group with room. -/
def LeagueDb.availableGroup (db : LeagueDb) (weekStart : Int) (league : LeagueName) : Option Int :=
  ((db.groupIds weekStart league).filter fun groupId =>
    (db.group weekStart league groupId).length < groupSize).min?

def LeagueDb.nextGroup (db : LeagueDb) (weekStart : Int) (league : LeagueName) : Int :=
  (db.availableGroup weekStart league).getD
    ((db.groupIds weekStart league).max?.getD 0 + 1)

/-- `INSERT INTO league_assignments`, of a user who has none for the week. -/
def LeagueDb.insert (db : LeagueDb) (la : LeagueAssignment)
    (h : db.assignment la.userId la.weekStart = none) : LeagueDb :=
  { db with
    assignments := db.assignments ++ [la]
    places_nodup := by
      rw [List.map_append, List.map_singleton]
      refine List.nodup_append.mpr ⟨db.places_nodup, List.nodup_singleton _, ?_⟩
      rintro a ha b hb rfl
      rw [List.mem_singleton.mp hb] at ha
      exact place_not_mem_iff.mpr h ha }

/-- The assignment that was there or is inserted now. Without a league there is nothing to
insert: `league` is `NOT NULL`. -/
def LeagueDb.ensureAssignmentForUserThisWeek (db : LeagueDb) (newId userId : Uuid)
    (weekStart : Int) : Except ApiError (LeagueName × Int) × LeagueDb :=
  match hexisting : db.assignment userId weekStart with
  | some la => (.ok (la.league, la.groupId), db)
  | none =>
    match db.userLeague userId with
    | none => (.error (dbError "null value in column league" "23502"), db)
    | some league =>
        let groupId := db.nextGroup weekStart league
        (.ok (league, groupId),
          db.insert (.new newId userId league groupId weekStart) hexisting)

/-! ### The seeding of a week -/

/-- The `CASE` over the assignment of the week before. -/
def targetLeague (prev : Option LeagueAssignment) : LeagueName :=
  match prev with
  | none => .bronze
  | some p =>
    if p.promoted && p.league = .bronze then .silver
    else if p.promoted && p.league = .silver then .gold
    else if p.demoted && p.league = .gold then .silver
    else if p.demoted && p.league = .silver then .bronze
    else p.league

structure Target where
  userId : Uuid
  league : LeagueName
deriving DecidableEq, Repr

def LeagueDb.targets (db : LeagueDb) (weekStart : Int) : List Target :=
  (db.users.filter LeagueUser.isLive).map fun u =>
    ⟨u.id, targetLeague (db.assignment u.id (weekStart - 7))⟩

/-- `CEIL(ROW_NUMBER() OVER (PARTITION BY t.league ORDER BY t.user_id)::numeric / 30)`. -/
def groupNumber (targets : List Target) (t : Target) : Int :=
  ((Sql.rowNumber Target.userId (targets.filter fun other => other.league = t.league) t +
    (groupSize - 1)) / groupSize : Nat)

structure Numbered where
  userId : Uuid
  league : LeagueName
  groupId : Int
deriving DecidableEq, Repr

def LeagueDb.numbered (db : LeagueDb) (weekStart : Int) : List Numbered :=
  (db.targets weekStart).map fun t =>
    ⟨t.userId, t.league, groupNumber (db.targets weekStart) t⟩

/-- The numbered users without an assignment. -/
def LeagueDb.unassigned (db : LeagueDb) (weekStart : Int) : List Numbered :=
  (db.numbered weekStart).filter fun n => (db.assignment n.userId weekStart).isNone

/-- The rows that are inserted. -/
def LeagueDb.inserted (db : LeagueDb) (newIds : Uuid → Uuid) (weekStart : Int) :
    List LeagueAssignment :=
  (db.unassigned weekStart).map fun n =>
    .new (newIds n.userId) n.userId n.league n.groupId weekStart

/-- `UPDATE users`, of those with an assignment for the week. -/
def LeagueDb.promoteUser (db : LeagueDb) (weekStart : Int) (u : LeagueUser) : LeagueUser :=
  if u.isLive && (db.assignment u.id weekStart).isSome then
    { u with league := some (targetLeague (db.assignment u.id (weekStart - 7))) }
  else u

theorem numbered_userIds (db : LeagueDb) (weekStart : Int) :
    (db.numbered weekStart).map Numbered.userId =
      (db.users.filter LeagueUser.isLive).map LeagueUser.id := by
  simp [LeagueDb.numbered, LeagueDb.targets, Function.comp_def]

theorem numbered_nodup (db : LeagueDb) (weekStart : Int) :
    ((db.numbered weekStart).map Numbered.userId).Nodup := by
  rw [numbered_userIds]
  exact db.users_nodup.sublist (List.filter_sublist.map _)

theorem inserted_places (db : LeagueDb) (newIds : Uuid → Uuid) (weekStart : Int) :
    (db.inserted newIds weekStart).map LeagueAssignment.place =
      (db.unassigned weekStart).map fun n => (n.userId, weekStart) := by
  simp [LeagueDb.inserted, LeagueAssignment.place, LeagueAssignment.new]

theorem inserted_places_nodup (db : LeagueDb) (newIds : Uuid → Uuid) (weekStart : Int) :
    ((db.assignments ++ db.inserted newIds weekStart).map LeagueAssignment.place).Nodup := by
  rw [List.map_append, inserted_places]
  refine List.nodup_append.mpr ⟨db.places_nodup, ?_, ?_⟩
  · have hids := (numbered_nodup db weekStart).sublist
      (List.filter_sublist.map Numbered.userId :
        ((db.unassigned weekStart).map Numbered.userId).Sublist _)
    have hpairs := hids.map (f := fun userId => (userId, weekStart))
      fun a b h => congrArg Prod.fst h
    rwa [List.map_map] at hpairs
  · rintro _ hplace _ hnew rfl
    obtain ⟨n, hn, rfl⟩ := List.mem_map.mp hnew
    exact place_not_mem_iff.mpr (Option.isNone_iff_eq_none.mp (List.mem_filter.mp hn).2) hplace

/-- `seedWeekAssignments`, for the ids that the database draws. -/
def LeagueDb.seedWeekAssignments (db : LeagueDb) (newIds : Uuid → Uuid) (weekStart : Int) :
    LeagueDb where
  users := db.users.map (db.promoteUser weekStart)
  users_nodup := by
    have hids : ∀ u, (db.promoteUser weekStart u).id = u.id := by
      intro u
      unfold LeagueDb.promoteUser
      split <;> rfl
    rw [List.map_map, Function.comp_def, List.map_congr_left fun u _ => hids u]
    exact db.users_nodup
  assignments := db.assignments ++ db.inserted newIds weekStart
  places_nodup := inserted_places_nodup db newIds weekStart

/-! ### Groups do not overflow -/

/-- No group of the week has more players than a group has room for. -/
def LeagueDb.GroupsFit (db : LeagueDb) (weekStart : Int) : Prop :=
  ∀ league groupId, (db.group weekStart league groupId).length ≤ groupSize

/-- Is the user numbered into the group? -/
def LeagueDb.isNumbered (db : LeagueDb) (weekStart : Int) (league : LeagueName) (groupId : Int)
    (userId : Uuid) : Bool :=
  (db.numbered weekStart).any fun n =>
    n.userId = userId && n.league = league && n.groupId = groupId

/-- Those in a group who are not numbered into it. -/
def LeagueDb.strangers (db : LeagueDb) (weekStart : Int) (league : LeagueName) (groupId : Int) :
    List LeagueAssignment :=
  (db.group weekStart league groupId).filter fun la =>
    !db.isNumbered weekStart league groupId la.userId

/-- Those who are numbered into a group. -/
def LeagueDb.numberedInto (db : LeagueDb) (weekStart : Int) (league : LeagueName)
    (groupId : Int) : List Numbered :=
  (db.numbered weekStart).filter fun n => n.league = league && n.groupId = groupId

/-- Those who are numbered into a group and have an assignment to another one. -/
def LeagueDb.absent (db : LeagueDb) (weekStart : Int) (league : LeagueName) (groupId : Int) :
    List Numbered :=
  (db.numberedInto weekStart league groupId).filter fun n =>
    (db.assignment n.userId weekStart).any fun la => la.league ≠ league || la.groupId ≠ groupId

/-- The places that the strangers of a group take are left by its absentees or not needed by its
numbers. -/
def LeagueDb.SeedFits (db : LeagueDb) (weekStart : Int) : Prop :=
  ∀ league groupId, (db.strangers weekStart league groupId).length ≤
    (groupSize - (db.numberedInto weekStart league groupId).length) +
      (db.absent weekStart league groupId).length

inductive LeagueCall where
  | ensure (newId userId : Uuid) (weekStart : Int)
  | seed (newIds : Uuid → Uuid) (weekStart : Int)

def LeagueDb.call (db : LeagueDb) : LeagueCall → LeagueDb
  | .ensure newId userId weekStart => (db.ensureAssignmentForUserThisWeek newId userId weekStart).2
  | .seed newIds weekStart => db.seedWeekAssignments newIds weekStart

/-- One call after the other. -/
def LeagueDb.run (db : LeagueDb) (calls : List LeagueCall) : LeagueDb :=
  calls.foldl LeagueDb.call db

/-- The seedings of a week come when they fit. -/
def LeagueDb.SeedsFit (weekStart : Int) : LeagueDb → List LeagueCall → Prop
  | _, [] => True
  | db, call :: calls =>
    (∀ newIds, call = .seed newIds weekStart → db.SeedFits weekStart) ∧
      SeedsFit weekStart (db.call call) calls

section
variable {db : LeagueDb} {weekStart : Int} {league : LeagueName} {groupId : Int}

theorem mem_group {la : LeagueAssignment} :
    la ∈ db.group weekStart league groupId ↔
      la ∈ db.assignments ∧ la.weekStart = weekStart ∧ la.league = league ∧
        la.groupId = groupId := by
  rw [LeagueDb.group, List.mem_filter]
  simp [and_assoc]

theorem insert_group (la : LeagueAssignment) (h : db.assignment la.userId la.weekStart = none) :
    (db.insert la h).group weekStart league groupId =
      db.group weekStart league groupId ++
        if la.weekStart = weekStart ∧ la.league = league ∧ la.groupId = groupId then [la]
        else [] := by
  rw [LeagueDb.group, LeagueDb.insert, LeagueDb.group, List.filter_append]
  congr 1
  split
  case isTrue hla => simp [hla]
  case isFalse hla => simpa [and_assoc] using hla

theorem mem_groupIds {la : LeagueAssignment} (h : la ∈ db.group weekStart league groupId) :
    groupId ∈ db.groupIds weekStart league := by
  obtain ⟨hmem, hweek, hleague, hgroup⟩ := mem_group.mp h
  exact List.mem_map.mpr ⟨la, List.mem_filter.mpr ⟨hmem, by simp [hweek, hleague]⟩, hgroup⟩

/-- The next group has room. -/
theorem nextGroup_length (db : LeagueDb) (weekStart : Int) (league : LeagueName) :
    (db.group weekStart league (db.nextGroup weekStart league)).length < groupSize := by
  unfold LeagueDb.nextGroup
  cases havailable : db.availableGroup weekStart league with
  | some groupId =>
      have hmem := List.min?_mem havailable
      simpa using (List.mem_filter.mp hmem).2
  | none =>
      -- a group after the last one is empty
      show (db.group weekStart league ((db.groupIds weekStart league).max?.getD 0 + 1)).length < _
      rw [List.length_eq_zero_iff.mpr]
      · decide
      · refine List.eq_nil_iff_forall_not_mem.mpr fun la hla => ?_
        have hid := mem_groupIds hla
        cases hmax : (db.groupIds weekStart league).max? with
        | none =>
            rw [List.max?_eq_none_iff.mp hmax] at hid
            exact List.not_mem_nil hid
        | some last =>
            have hle := (List.max?_eq_some_iff.mp hmax).2 _ hid
            rw [hmax, Option.getD_some] at hle
            omega

theorem insert_groupsFit (la : LeagueAssignment)
    (hnone : db.assignment la.userId la.weekStart = none)
    (hroom : (db.group la.weekStart la.league la.groupId).length < groupSize)
    (h : db.GroupsFit weekStart) : (db.insert la hnone).GroupsFit weekStart := by
  intro league groupId
  rw [insert_group, List.length_append]
  split
  case isTrue hla =>
    obtain ⟨rfl, rfl, rfl⟩ := hla
    exact hroom
  case isFalse => exact h league groupId

/-- A player who comes first finds room. -/
theorem ensure_groupsFit (newId userId : Uuid) (week : Int) (h : db.GroupsFit weekStart) :
    (db.ensureAssignmentForUserThisWeek newId userId week).2.GroupsFit weekStart := by
  unfold LeagueDb.ensureAssignmentForUserThisWeek
  split
  next => exact h
  next hnone =>
    split
    next => exact h
    next => exact insert_groupsFit _ hnone (nextGroup_length db week _) h

/-! ### The numbers of the seeding -/

theorem targets_nodup (db : LeagueDb) (weekStart : Int) : (db.targets weekStart).Nodup := by
  have hids : ((db.targets weekStart).map Target.userId).Nodup := by
    rw [LeagueDb.targets, List.map_map]
    exact db.users_nodup.sublist (List.filter_sublist.map _)
  exact hids.of_map Target.userId

/-- Thirty are numbered into a group at most. -/
theorem numberedInto_length_le (db : LeagueDb) (weekStart : Int) (league : LeagueName)
    (groupId : Int) : (db.numberedInto weekStart league groupId).length ≤ groupSize := by
  let targets := db.targets weekStart
  let inLeague := targets.filter fun other => other.league = league
  let inGroup := targets.filter fun t => t.league = league && groupNumber targets t = groupId
  have hlength : (db.numberedInto weekStart league groupId).length = inGroup.length := by
    rw [LeagueDb.numberedInto, LeagueDb.numbered, List.filter_map, List.length_map]
    rfl
  have hmem : ∀ t ∈ inGroup, t ∈ inLeague := by
    intro t ht
    have hkept := List.mem_filter.mp ht
    rw [Bool.and_eq_true] at hkept
    exact List.mem_filter.mpr ⟨hkept.1, hkept.2.1⟩
  let first := groupSize * (groupId.toNat - 1) + 1
  have hrange : ∀ t ∈ inGroup, first ≤ Sql.rowNumber Target.userId inLeague t ∧
      Sql.rowNumber Target.userId inLeague t < first + groupSize := by
    intro t ht
    have hkept := (List.mem_filter.mp ht).2
    rw [Bool.and_eq_true, decide_eq_true_eq, decide_eq_true_eq] at hkept
    obtain ⟨rfl, hnumber⟩ := hkept
    have hgroup : ((Sql.rowNumber Target.userId inLeague t + (groupSize - 1)) / groupSize : Nat) =
        groupId := hnumber
    have hpos : 1 ≤ Sql.rowNumber Target.userId inLeague t := Nat.succ_pos _
    show groupSize * (groupId.toNat - 1) + 1 ≤ Sql.rowNumber Target.userId inLeague t ∧
      Sql.rowNumber Target.userId inLeague t < groupSize * (groupId.toNat - 1) + 1 + groupSize
    rw [← hgroup, Int.toNat_natCast, groupSize]
    omega
  rw [hlength]
  exact Sql.length_le_of_rowNumber ((targets_nodup db weekStart).filter _) hmem hrange

theorem isNumbered_iff {n : Numbered} (hn : n ∈ db.numbered weekStart) :
    db.isNumbered weekStart league groupId n.userId = true ↔
      n.league = league ∧ n.groupId = groupId := by
  rw [LeagueDb.isNumbered, List.any_eq_true]
  constructor
  · rintro ⟨other, hother, hsame⟩
    simp only [Bool.and_eq_true, decide_eq_true_eq] at hsame
    obtain ⟨⟨huser, hleague⟩, hgroup⟩ := hsame
    have heq := List.inj_on_of_nodup_map (numbered_nodup db weekStart) hother hn huser
    rw [← heq]
    exact ⟨hleague, hgroup⟩
  · rintro ⟨hleague, hgroup⟩
    exact ⟨n, hn, by simp [hleague, hgroup]⟩

/-- Who is in a group after the seeding. -/
theorem seed_group (newIds : Uuid → Uuid) :
    (db.seedWeekAssignments newIds weekStart).group weekStart league groupId =
      db.group weekStart league groupId ++
        ((db.numberedInto weekStart league groupId).filter fun n =>
          (db.assignment n.userId weekStart).isNone).map fun n =>
            .new (newIds n.userId) n.userId n.league n.groupId weekStart := by
  rw [LeagueDb.group, LeagueDb.seedWeekAssignments, List.filter_append, ← LeagueDb.group]
  congr 1
  rw [LeagueDb.inserted, LeagueDb.unassigned, LeagueDb.numberedInto, List.filter_map,
    List.filter_filter, List.filter_filter]
  congr 1
  refine List.filter_congr fun n _ => ?_
  simp [LeagueAssignment.new, Bool.and_comm]

theorem group_userIds_nodup (db : LeagueDb) (weekStart : Int) (league : LeagueName)
    (groupId : Int) :
    ((db.group weekStart league groupId).map LeagueAssignment.userId).Nodup := by
  have hplaces : ((db.group weekStart league groupId).map LeagueAssignment.place).Nodup :=
    db.places_nodup.sublist (List.filter_sublist.map LeagueAssignment.place)
  have hpairs : (db.group weekStart league groupId).map LeagueAssignment.place =
      ((db.group weekStart league groupId).map LeagueAssignment.userId).map
        fun userId => (userId, weekStart) := by
    rw [List.map_map]
    refine List.map_congr_left fun la hla => ?_
    rw [LeagueAssignment.place, (mem_group.mp hla).2.1]
    rfl
  rw [hpairs] at hplaces
  exact hplaces.of_map _

theorem mem_numberedInto {n : Numbered} :
    n ∈ db.numberedInto weekStart league groupId ↔
      n ∈ db.numbered weekStart ∧ n.league = league ∧ n.groupId = groupId := by
  rw [LeagueDb.numberedInto, List.mem_filter, Bool.and_eq_true, decide_eq_true_eq,
    decide_eq_true_eq]

theorem exists_of_isNumbered {userId : Uuid}
    (h : db.isNumbered weekStart league groupId userId = true) :
    ∃ n ∈ db.numberedInto weekStart league groupId, n.userId = userId := by
  obtain ⟨n, hn, hsame⟩ := List.any_eq_true.mp h
  simp only [Bool.and_eq_true, decide_eq_true_eq] at hsame
  exact ⟨n, mem_numberedInto.mpr ⟨hn, hsame.1.2, hsame.2⟩, hsame.1.1⟩

/-- Has the user an assignment to the group? -/
theorem isAssigned_iff {userId : Uuid} :
    ((db.assignment userId weekStart).any fun la =>
        la.league = league && la.groupId = groupId) = true ↔
      ∃ la ∈ db.group weekStart league groupId, la.userId = userId := by
  rw [Option.any_eq_true]
  constructor
  · rintro ⟨la, hla, hplace⟩
    rw [Bool.and_eq_true, decide_eq_true_eq, decide_eq_true_eq] at hplace
    obtain ⟨hmem, huser, hweek⟩ := assignment_spec hla
    exact ⟨la, mem_group.mpr ⟨hmem, hweek, hplace⟩, huser⟩
  · rintro ⟨la, hla, huser⟩
    obtain ⟨hmem, hweek, hplace⟩ := mem_group.mp hla
    refine ⟨la, assignment_eq_some_iff.mpr ⟨hmem, huser, hweek⟩, ?_⟩
    rw [Bool.and_eq_true, decide_eq_true_eq, decide_eq_true_eq]
    exact hplace

/-- The others in a group are those who are numbered into it and are there already. -/
theorem natives_length (db : LeagueDb) (weekStart : Int) (league : LeagueName) (groupId : Int) :
    ((db.group weekStart league groupId).filter fun la =>
        db.isNumbered weekStart league groupId la.userId).length =
      ((db.numberedInto weekStart league groupId).filter fun n =>
        (db.assignment n.userId weekStart).any fun la =>
          la.league = league && la.groupId = groupId).length := by
  have hnatives := (group_userIds_nodup db weekStart league groupId).sublist
    ((List.filter_sublist (p := fun la =>
      db.isNumbered weekStart league groupId la.userId)).map LeagueAssignment.userId)
  have hthere : (((db.numberedInto weekStart league groupId).filter fun n =>
      (db.assignment n.userId weekStart).any fun la =>
        la.league = league && la.groupId = groupId).map Numbered.userId).Nodup :=
    (numbered_nodup db weekStart).sublist
      ((List.filter_sublist.trans List.filter_sublist).map Numbered.userId)
  have hperm := (List.perm_ext_iff_of_nodup hnatives hthere).mpr fun userId => by
    simp only [List.mem_map, List.mem_filter]
    constructor
    · rintro ⟨la, ⟨hla, hnumbered⟩, rfl⟩
      obtain ⟨n, hn, huser⟩ := exists_of_isNumbered hnumbered
      exact ⟨n, ⟨hn, isAssigned_iff.mpr ⟨la, hla, huser.symm⟩⟩, huser⟩
    · rintro ⟨n, ⟨hn, hassigned⟩, rfl⟩
      obtain ⟨la, hla, huser⟩ := isAssigned_iff.mp hassigned
      obtain ⟨hmem, hplace⟩ := mem_numberedInto.mp hn
      refine ⟨la, ⟨hla, ?_⟩, huser⟩
      rw [huser]
      exact (isNumbered_iff hmem).mpr hplace
  simpa using hperm.length_eq

/-- Rows without a value, with a value that has a property, and with one that has it not. -/
theorem length_by_option {α β : Type} (rows : List α) (value : α → Option β) (p : β → Bool) :
    rows.length = (rows.filter fun a => (value a).isNone).length +
      (rows.filter fun a => (value a).any p).length +
      (rows.filter fun a => (value a).any fun b => !p b).length := by
  induction rows with
  | nil => rfl
  | cons a rows ih =>
      cases hvalue : value a with
      | none =>
          simp [hvalue]
          omega
      | some b =>
          cases hp : p b <;> simp [hvalue, hp] <;> omega

/-- The size of a group after the seeding, in terms of the state before. -/
theorem seed_group_length (db : LeagueDb) (newIds : Uuid → Uuid) (weekStart : Int)
    (league : LeagueName) (groupId : Int) :
    ((db.seedWeekAssignments newIds weekStart).group weekStart league groupId).length +
        (db.absent weekStart league groupId).length =
      (db.strangers weekStart league groupId).length +
        (db.numberedInto weekStart league groupId).length := by
  have hgroup := List.length_eq_length_filter_add (l := db.group weekStart league groupId)
    fun la => db.isNumbered weekStart league groupId la.userId
  have hnumbered := length_by_option (db.numberedInto weekStart league groupId)
    (fun n => db.assignment n.userId weekStart)
    fun la => la.league = league && la.groupId = groupId
  have hnatives := natives_length db weekStart league groupId
  simp only [Bool.not_and, ← decide_not] at hnumbered
  rw [seed_group, List.length_append, List.length_map]
  simp only [LeagueDb.strangers, LeagueDb.absent, ne_eq]
  omega

/-- A seeding leaves groups with room exactly if it fits. -/
theorem seed_groupsFit_iff (newIds : Uuid → Uuid) :
    (db.seedWeekAssignments newIds weekStart).GroupsFit weekStart ↔ db.SeedFits weekStart := by
  refine forall₂_congr fun league groupId => ?_
  have hlength := seed_group_length db newIds weekStart league groupId
  have hnumbered := numberedInto_length_le db weekStart league groupId
  omega

/-- A seeding leaves the groups of other weeks alone. -/
theorem seed_group_of_ne (newIds : Uuid → Uuid) {week : Int} (hne : week ≠ weekStart) :
    (db.seedWeekAssignments newIds week).group weekStart league groupId =
      db.group weekStart league groupId := by
  have hnone : (db.inserted newIds week).filter (fun la =>
      la.weekStart = weekStart && la.league = league && la.groupId = groupId) = [] := by
    refine List.filter_eq_nil_iff.mpr fun la hla => ?_
    obtain ⟨n, -, rfl⟩ := List.mem_map.mp hla
    simp [LeagueAssignment.new, hne]
  rw [LeagueDb.group, LeagueDb.seedWeekAssignments, List.filter_append, hnone, List.append_nil,
    LeagueDb.group]

/-! ### The groups in every run -/

theorem call_groupsFit {call : LeagueCall} (h : db.GroupsFit weekStart)
    (hfits : ∀ newIds, call = .seed newIds weekStart → db.SeedFits weekStart) :
    (db.call call).GroupsFit weekStart := by
  cases call with
  | ensure newId userId week => exact ensure_groupsFit newId userId week h
  | seed newIds week =>
      by_cases hweek : week = weekStart
      · subst hweek
        exact (seed_groupsFit_iff newIds).mpr (hfits newIds rfl)
      · intro league groupId
        show ((db.seedWeekAssignments newIds week).group weekStart league groupId).length ≤ _
        rw [seed_group_of_ne newIds hweek]
        exact h league groupId

/-- Of a user there is at most one assignment for a week. -/
theorem assignments_length_le_one (db : LeagueDb) (userId : Uuid) (week : Int) :
    (db.assignments.filter fun la => la.userId = userId && la.weekStart = week).length ≤ 1 := by
  have hnodup : (db.assignments.filter fun la =>
      la.userId = userId && la.weekStart = week).Nodup := (db.places_nodup.of_map _).filter _
  have hsubset : (db.assignments.filter fun la => la.userId = userId && la.weekStart = week) ⊆
      (db.assignment userId week).toList := by
    intro la hla
    rw [List.mem_filter, Bool.and_eq_true, decide_eq_true_eq, decide_eq_true_eq] at hla
    rw [assignment_eq_some_iff.mpr hla]
    exact List.mem_singleton.mpr rfl
  refine (List.subperm_of_subset hnodup hsubset).length_le.trans ?_
  cases db.assignment userId week <;> simp

/-- **League groups hold thirty players, in every run whose seedings fit.** -/
theorem run_groupsFit (start : LeagueDb) (weekStart : Int) (calls : List LeagueCall)
    (hstart : start.GroupsFit weekStart) (hfits : start.SeedsFit weekStart calls) :
    (start.run calls).GroupsFit weekStart ∧
      ∀ userId, ((start.run calls).assignments.filter fun la =>
        la.userId = userId && la.weekStart = weekStart).length ≤ 1 := by
  refine ⟨?_, fun userId => assignments_length_le_one _ userId weekStart⟩
  induction calls generalizing start with
  | nil => exact hstart
  | cons call calls ih =>
      obtain ⟨hcall, hcalls⟩ := hfits
      exact ih (start.call call) (call_groupsFit hstart hcall) hcalls

/-- Where no one has an assignment for the week, the seeding fits. -/
theorem seedFits_of_unassigned (h : ∀ la ∈ db.assignments, la.weekStart ≠ weekStart) :
    db.SeedFits weekStart := by
  intro league groupId
  rw [List.length_eq_zero_iff.mpr]
  · exact Nat.zero_le _
  · refine List.eq_nil_iff_forall_not_mem.mpr fun la hla => ?_
    obtain ⟨hmem, hweek, -⟩ := mem_group.mp (List.mem_filter.mp hla).1
    exact h la hmem hweek

end

/-- A user without a league. -/
def newcomer (id : Uuid) : LeagueUser := ⟨id, none, none⟩

/-- So many users and no assignments. -/
def newcomers (n : Nat) : LeagueDb where
  users := (List.range n).map newcomer
  users_nodup := by
    rw [List.map_map]
    show ((List.range n).map id).Nodup
    rw [List.map_id]
    exact List.nodup_range
  assignments := []
  places_nodup := List.nodup_nil

theorem newcomers_groupsFit (n : Nat) (weekStart : Int) :
    (newcomers n).GroupsFit weekStart := fun _ _ => Nat.zero_le _

/-- The first seeding fits, and so does what follows without one. -/
theorem newcomers_seedsFit (n : Nat) :
    (newcomers n).SeedsFit 0 [.seed id 0, .ensure 100 30 0] := by
  refine ⟨fun _ _ => seedFits_of_unassigned fun la hla => absurd hla List.not_mem_nil, ?_, trivial⟩
  intro newIds h
  cases h

/-- Seeded first, the week has groups that hold. -/
theorem seeded_first_fits :
    ((newcomers 31).run [.seed id 0, .ensure 100 30 0]).GroupsFit 0 ∧
      ∀ userId, (((newcomers 31).run [.seed id 0, .ensure 100 30 0]).assignments.filter fun la =>
        la.userId = userId && la.weekStart = 0).length ≤ 1 :=
  run_groupsFit (newcomers 31) 0 [.seed id 0, .ensure 100 30 0] (newcomers_groupsFit 31 0)
    (newcomers_seedsFit 31)

/-- The last of thirty-one users comes before the week is seeded. -/
theorem early_player_overfills :
    (newcomers 31).GroupsFit 0 ∧
      ¬ ((newcomers 31).run [.ensure 100 30 0, .seed id 0]).GroupsFit 0 := by
  have hlength :
      (((newcomers 31).run [.ensure 100 30 0, .seed id 0]).group 0 .bronze 1).length = 31 := by
    decide +kernel
  refine ⟨newcomers_groupsFit 31 0, fun h => ?_⟩
  have hfits := h .bronze 1
  rw [hlength] at hfits
  exact absurd hfits (by decide)

/-! ### What a seeding should bring -/

def LeagueName.next : LeagueName → Option LeagueName
  | .bronze => some .silver
  | .silver => some .gold
  | .gold => none

def LeagueName.previous : LeagueName → Option LeagueName
  | .bronze => none
  | .silver => some .bronze
  | .gold => some .silver

/-- The league of the week before, moved by its flags where there is a league to move to; a
promotion goes before a relegation. -/
def movedLeague (prev : Option LeagueAssignment) : LeagueName :=
  match prev with
  | none => .bronze
  | some p =>
    ((if p.promoted then p.league.next else none) <|>
      (if p.demoted then p.league.previous else none)).getD p.league

/-- Every live user has one assignment for the week, to the league moved by the flags, and is of
that league. -/
structure LeagueDb.Seeded (db seeded : LeagueDb) (weekStart : Int) : Prop where
  assigned : ∀ u ∈ db.users, u.isLive → ∃ la,
    (seeded.assignments.filter fun la => la.userId = u.id && la.weekStart = weekStart) = [la] ∧
      la.league = movedLeague (db.assignment u.id (weekStart - 7))
  leagues : ∀ u ∈ seeded.users, u.isLive → ∀ la,
    seeded.assignment u.id weekStart = some la → u.league = some la.league

theorem targetLeague_eq_moved (prev : Option LeagueAssignment) :
    targetLeague prev = movedLeague prev := by
  cases prev with
  | none => rfl
  | some p =>
      cases hleague : p.league <;> cases hpromoted : p.promoted <;>
        cases hdemoted : p.demoted <;>
        simp [targetLeague, movedLeague, LeagueName.next, LeagueName.previous, hleague, hpromoted,
          hdemoted]

section
variable {db : LeagueDb} {weekStart : Int}

theorem assignment_eq_none (h : ∀ la ∈ db.assignments, la.weekStart ≠ weekStart) (userId : Uuid) :
    db.assignment userId weekStart = none := by
  cases hassignment : db.assignment userId weekStart with
  | none => rfl
  | some la =>
      obtain ⟨hmem, -, hweek⟩ := assignment_spec hassignment
      exact absurd hweek (h la hmem)

/-- The assignment that the seeding brings a live user. -/
theorem seeded_assignment (newIds : Uuid → Uuid)
    (hempty : ∀ la ∈ db.assignments, la.weekStart ≠ weekStart) {u : LeagueUser}
    (hu : u ∈ db.users) (hlive : u.isLive = true) :
    ∃ la, (db.seedWeekAssignments newIds weekStart).assignment u.id weekStart = some la ∧
      la.league = movedLeague (db.assignment u.id (weekStart - 7)) := by
  let t : Target := ⟨u.id, targetLeague (db.assignment u.id (weekStart - 7))⟩
  let n : Numbered := ⟨u.id, t.league, groupNumber (db.targets weekStart) t⟩
  have ht : t ∈ db.targets weekStart :=
    List.mem_map.mpr ⟨u, List.mem_filter.mpr ⟨hu, hlive⟩, rfl⟩
  have hn : n ∈ db.unassigned weekStart := by
    refine List.mem_filter.mpr ⟨List.mem_map.mpr ⟨t, ht, rfl⟩, ?_⟩
    rw [assignment_eq_none hempty]
    rfl
  refine ⟨.new (newIds u.id) u.id t.league n.groupId weekStart,
    assignment_eq_some_iff.mpr ⟨?_, rfl, rfl⟩, targetLeague_eq_moved _⟩
  exact List.mem_append_right _ (List.mem_map.mpr ⟨n, hn, rfl⟩)

/-- The `UPDATE` finds no assignment. -/
theorem seeded_users (newIds : Uuid → Uuid)
    (hempty : ∀ la ∈ db.assignments, la.weekStart ≠ weekStart) :
    (db.seedWeekAssignments newIds weekStart).users = db.users := by
  show db.users.map (db.promoteUser weekStart) = db.users
  have hsame : ∀ u, db.promoteUser weekStart u = u := by
    intro u
    rw [LeagueDb.promoteUser, assignment_eq_none hempty, Option.isSome_none, Bool.and_false]
    rfl
  rw [List.map_congr_left fun u _ => hsame u, List.map_id']

theorem filter_eq_singleton {userId : Uuid} {la : LeagueAssignment}
    (h : db.assignment userId weekStart = some la) :
    (db.assignments.filter fun la => la.userId = userId && la.weekStart = weekStart) = [la] := by
  obtain ⟨hmem, huser, hweek⟩ := assignment_spec h
  have hin : la ∈ db.assignments.filter fun la =>
      la.userId = userId && la.weekStart = weekStart :=
    List.mem_filter.mpr ⟨hmem, by simp [huser, hweek]⟩
  have hlength := assignments_length_le_one db userId weekStart
  obtain ⟨only, honly⟩ := List.length_eq_one_iff.mp
    (le_antisymm hlength (List.length_pos_of_mem hin))
  rw [honly] at hin ⊢
  rw [List.mem_singleton.mp hin]

/-- **When the seeding of a week applies the promotions.** -/
theorem seedWeekAssignments_seeded_iff (db : LeagueDb) (newIds : Uuid → Uuid) (weekStart : Int)
    (hempty : ∀ la ∈ db.assignments, la.weekStart ≠ weekStart) :
    db.Seeded (db.seedWeekAssignments newIds weekStart) weekStart ↔
      ∀ u ∈ db.users, u.isLive →
        u.league = some (movedLeague (db.assignment u.id (weekStart - 7))) := by
  constructor
  · intro h u hu hlive
    obtain ⟨la, hla, hleague⟩ := seeded_assignment newIds hempty hu hlive
    rw [← hleague]
    exact h.leagues u (by rwa [seeded_users newIds hempty]) hlive la hla
  · intro h
    constructor
    · intro u hu hlive
      obtain ⟨la, hla, hleague⟩ := seeded_assignment newIds hempty hu hlive
      exact ⟨la, filter_eq_singleton hla, hleague⟩
    · intro u hu hlive la hla
      rw [seeded_users newIds hempty] at hu
      obtain ⟨la', hla', hleague⟩ := seeded_assignment newIds hempty hu hlive
      obtain rfl := Option.some.inj (hla.symm.trans hla')
      rw [hleague]
      exact h u hu hlive

end

/-- A user and the assignment of the week before. -/
def onePlayer (league : LeagueName) (promoted : Bool) : LeagueDb where
  users := [⟨1, some league, none⟩]
  users_nodup := by simp
  assignments := [{ LeagueAssignment.new 50 1 league 1 0 with promoted }]
  places_nodup := by simp

/-- A player who stays in the league is seeded right. -/
theorem staying_player_seeded :
    (onePlayer .silver false).Seeded ((onePlayer .silver false).seedWeekAssignments id 7) 7 :=
  (seedWeekAssignments_seeded_iff (onePlayer .silver false) id 7 (by decide)).mpr (by decide)

/-- A promoted player is assigned to the higher league and stays in the lower one. -/
theorem promoted_player_stays :
    ((onePlayer .bronze true).seedWeekAssignments id 7).assignment 1 7 =
        some (.new 1 1 .silver 1 7) ∧
      ((onePlayer .bronze true).seedWeekAssignments id 7).users = [⟨1, some .bronze, none⟩] ∧
      ¬ (onePlayer .bronze true).Seeded
        ((onePlayer .bronze true).seedWeekAssignments id 7) 7 := by
  have hassignment : ((onePlayer .bronze true).seedWeekAssignments id 7).assignment 1 7 =
      some (.new 1 1 .silver 1 7) := by decide +kernel
  have husers : ((onePlayer .bronze true).seedWeekAssignments id 7).users =
      [⟨1, some .bronze, none⟩] := by decide +kernel
  refine ⟨hassignment, husers, fun h => ?_⟩
  have hmem : (⟨1, some .bronze, none⟩ : LeagueUser) ∈
      ((onePlayer .bronze true).seedWeekAssignments id 7).users := by
    rw [husers]
    exact List.mem_singleton.mpr rfl
  have hleague := h.leagues _ hmem rfl _ hassignment
  exact absurd hleague (by decide)

end BrandBlitz.Competition
