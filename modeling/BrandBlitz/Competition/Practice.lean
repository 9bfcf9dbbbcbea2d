import BrandBlitz.Competition.Leagues
import BrandBlitz.Competition.Statements
import BrandBlitz.Competition.Teams

/-!
# BrandBlitz.Competition.Practice

**Practice and the competition.** A history of statements is compared with the same history
without the statements of some practice sessions: the two databases differ in these sessions
having been played or not. The question is whether anybody can tell from the results of the
competition.

`getLeaderboard` and the badges leave practice sessions out. The leaderboard of the teams and the
points of a week do not, and `finishSession` adds every score to the user. So the results are the
same exactly if none of these sessions is finished: an open, abandoned or flagged practice session
is never completed and has no points.
-/

namespace BrandBlitz.Competition

open BrandBlitz.Lib
open BrandBlitz.Paging (Uuid Timestamp LeaderboardQuery Cursor getLeaderboard
  getLeaderboard_congr)
open BrandBlitz.Payout (ChallengeTier LicensePayoutTerms PayoutAllocation)

/-! ### The results of the competition -/

/-- A row of the leaderboard, as `processPayout` reads it to allocate. -/
def payoutSession (row : Paging.LeaderboardSession) : Option Payout.LeaderboardSession :=
  row.session.userId.map fun userId =>
    { id := row.session.id
      userId := userId
      stellarAddress := row.stellarAddress
      totalScore := row.session.totalScore.toNat
      completedAt := row.session.completedAt.map (· / 1000)
      createdAt := row.session.createdAt / 1000
      integrityHmac := none }

/-- `getLeaderboard(challengeId, 1000)`. -/
def Db.payoutSessions (db : Db) (now : Timestamp) (challengeId : Uuid) :
    List Payout.LeaderboardSession :=
  match getLeaderboard db.leaderboardDb now
      ⟨challengeId, 1000, .score, none, .allTime, none, none⟩ none with
  | .ok page => page.rows.filterMap payoutSession
  | .error _ => []

/-- What `processPayout` allocates. -/
def Db.payoutAllocations (db : Db) (now : Timestamp) (challengeId : Uuid)
    (poolAmountStroops : Nat) (tiers : List ChallengeTier)
    (licenseTerms : Option LicensePayoutTerms) : OrderedMap Uuid PayoutAllocation :=
  Payout.payoutAllocations
    ⟨poolAmountStroops, db.payoutSessions now challengeId, tiers, licenseTerms⟩

/-- Every result of the competition is the same. -/
structure SameResults (db db' : Db) : Prop where
  leaderboard : ∀ now q cursor,
    getLeaderboard db'.leaderboardDb now q cursor = getLeaderboard db.leaderboardDb now q cursor
  teamLeaderboard : ∀ challengeId limit,
    db'.getChallengeTeamLeaderboard challengeId limit =
      db.getChallengeTeamLeaderboard challengeId limit
  weeklyPoints : ∀ weekStart,
    (db'.recalculateWeeklyPoints weekStart).map (·.assignments) =
      (db.recalculateWeeklyPoints weekStart).map (·.assignments)
  league : ∀ weekStart,
    (db'.recalculateLeague weekStart).assignments = (db.recalculateLeague weekStart).assignments
  totalScore : ∀ userId,
    (db'.users userId).map User.totalScore = (db.users userId).map User.totalScore
  challengesPlayed : ∀ userId,
    (db'.users userId).map User.challengesPlayed = (db.users userId).map User.challengesPlayed
  payouts : ∀ now challengeId poolAmountStroops tiers licenseTerms,
    db'.payoutAllocations now challengeId poolAmountStroops tiers licenseTerms =
      db.payoutAllocations now challengeId poolAmountStroops tiers licenseTerms
  teamPayouts : ∀ challengeId playerPoolStroops,
    db'.calculateTeamPayoutAllocations challengeId playerPoolStroops =
      db.calculateTeamPayoutAllocations challengeId playerPoolStroops
  badges : db'.userBadges = db.userBadges
  /-- the badges of the next session of the competition -/
  nextBadges : ∀ userId totalScore,
    (db'.checkAndAwardSessionBadges userId totalScore false).1 =
      (db.checkAndAwardSessionBadges userId totalScore false).1

/-! ### Two databases -/

/-- The history without some sessions. -/
def withoutSessions (removed : Uuid → Bool) (history : List Statement) : List Statement :=
  history.filter fun st => !removed st.sessionId

/-- The sessions to remove are practice sessions, and none of them is in the way of a session that
stays (`UNIQUE (user_id, challenge_id)`). -/
def PracticeAside (removed : Uuid → Bool) (db : Db) : Statement → Prop
  | .claimSession id data _ =>
      if removed id then data.isPractice = true
      else ∀ s ∈ db.sessions, removed s.id = true → s.conflicts data = false
  | _ => True

/-- The databases after the history and after the history without these sessions differ only in
practice sessions having been played. -/
def DifferInPractice (removed : Uuid → Bool) (base : Db) (history : List Statement) : Prop :=
  (∀ s ∈ base.sessions, removed s.id = false) ∧ Along (PracticeAside removed) base history

/-- None of these sessions is finished. -/
def Unfinished (removed : Uuid → Bool) (base : Db) (history : List Statement) : Prop :=
  Along (fun db st => removed st.sessionId = true → db.finished st = none) base history

/-! ### The two runs side by side -/

section Without
variable {removed : Uuid → Bool} {db db' : Db} {st : Statement}

/-- `db'` has the sessions of `db` but for those to remove, which are practice sessions. -/
structure Without (removed : Uuid → Bool) (db db' : Db) : Prop where
  sessions : db'.sessions = db.sessions.filter fun s => !removed s.id
  practice : ∀ s ∈ db.sessions, removed s.id = true →
    s.isPractice = true ∧ s.userId.isSome = true
  known : ∀ userId, (db'.users userId).isSome = (db.users userId).isSome
  setting : db'.toSetting = db.toSetting

namespace Without

theorem byId (h : Without removed db db') {id : Uuid} (hid : removed id = false) :
    db'.byId id = db.byId id := by
  rw [Db.byId, h.sessions, List.find?_filter, Db.byId]
  congr 1
  funext s
  by_cases hs : s.id = id <;> simp [hs, hid]

theorem finished (h : Without removed db db') (hst : removed st.sessionId = false) :
    db'.finished st = db.finished st := by
  cases st with
  | finishSession id now =>
      have hid : removed id = false := hst
      rw [Db.finished, h.byId hid, Db.finished]
  | claimSession | deleteSession | markChallengeStarted | recordRoundScore | updateStreak
  | checkAndAwardSessionBadges | flagSession | abandonSession => rfl

theorem competitor (h : Without removed db db') {id : Uuid} (hid : removed id = false) :
    db'.competitor id = db.competitor id := by
  rw [Db.competitor, h.byId hid, Db.competitor]

theorem editAt (h : Without removed db db') (hst : removed st.sessionId = false) :
    db'.editAt st = db.editAt st := by
  have hedit : db'.edit st = db.edit st := by
    cases st with
    | finishSession id now => rw [Db.edit, h.finished hst, Db.edit]
    | claimSession | deleteSession | markChallengeStarted | recordRoundScore | updateStreak
    | checkAndAwardSessionBadges | flagSession | abandonSession => rfl
  rw [Db.editAt, hedit, Db.editAt]

theorem claimable (h : Without removed db db') {id : Uuid} {data : SessionData}
    (hid : removed id = false)
    (haside : ∀ s ∈ db.sessions, removed s.id = true → s.conflicts data = false) :
    db'.claimable id data = db.claimable id data := by
  have hall {p : GameSession → Bool} (hp : ∀ s ∈ db.sessions, removed s.id = true → p s = true) :
      db'.sessions.all p = db.sessions.all p := by
    rw [Bool.eq_iff_iff, List.all_eq_true, List.all_eq_true, h.sessions]
    constructor
    · intro hkept s hs
      cases hremoved : removed s.id with
      | true => exact hp s hs hremoved
      | false => exact hkept s (List.mem_filter.mpr ⟨hs, by simp [hremoved]⟩)
    · intro hevery s hs
      exact hevery s (List.mem_filter.mp hs).1
  have hconflicts : db'.sessions.all (fun s => !s.conflicts data) =
      db.sessions.all fun s => !s.conflicts data :=
    hall fun s hs hremoved => by simp [haside s hs hremoved]
  have hids : db'.sessions.all (fun s => s.id ≠ id) = db.sessions.all fun s => s.id ≠ id := by
    refine hall fun s hs hremoved => ?_
    simp only [ne_eq, decide_not, Bool.not_eq_true', decide_eq_false_iff_not]
    intro hsid
    rw [hsid, hid] at hremoved
    cases hremoved
  rw [Db.claimable, hconflicts, hids, h.known, Db.claimable]

/-- Editing commutes with leaving sessions out. -/
theorem filter_map_edit (edit : Edit) (sessions : List GameSession) :
    (sessions.map edit.set).filter (fun s => !removed s.id) =
      (sessions.filter fun s => !removed s.id).map edit.set := by
  rw [List.filter_map]
  congr 1
  refine List.filter_congr fun s _ => ?_
  rw [Function.comp_apply, edit.id_eq]

theorem sessionsAfter_kept (h : Without removed db db') (hst : removed st.sessionId = false)
    (haside : PracticeAside removed db st) :
    db'.sessionsAfter st = (db.sessionsAfter st).filter fun s => !removed s.id := by
  have hedit : db'.sessions.map (db'.editAt st).set =
      (db.sessions.map (db.editAt st).set).filter fun s => !removed s.id := by
    rw [filter_map_edit, h.editAt hst, h.sessions]
  cases st with
  | claimSession id data now =>
      have hid : removed id = false := hst
      rw [PracticeAside, hid] at haside
      rw [Db.sessionsAfter, Db.sessionsAfter, h.claimable hid haside]
      split
      · rw [List.filter_append, ← h.sessions, List.filter_singleton]
        simp [GameSession.new, hid]
      · exact h.sessions
  | deleteSession id =>
      rw [Db.sessionsAfter, h.sessions, Db.sessionsAfter, List.filter_comm]
  | markChallengeStarted | recordRoundScore | finishSession | updateStreak
  | checkAndAwardSessionBadges | flagSession | abandonSession => exact hedit

theorem sessionsAfter_removed (h : Without removed db db') (hst : removed st.sessionId = true) :
    db'.sessions = (db.sessionsAfter st).filter fun s => !removed s.id := by
  have hedit : db'.sessions =
      (db.sessions.map (db.editAt st).set).filter fun s => !removed s.id := by
    rw [filter_map_edit, ← h.sessions]
    refine ((List.map_congr_left fun s hs => ?_).trans (List.map_id _)).symm
    rw [h.sessions] at hs
    refine editAt_of_ne db fun hsid => ?_
    have hkept := (List.mem_filter.mp hs).2
    rw [hsid, hst] at hkept
    cases hkept
  cases st with
  | claimSession id data now =>
      have hid : removed id = true := hst
      rw [Db.sessionsAfter]
      split
      · rw [List.filter_append, ← h.sessions, List.filter_singleton]
        simp [GameSession.new, hid]
      · exact h.sessions
  | deleteSession id =>
      have hid : removed id = true := hst
      rw [Db.sessionsAfter, List.filter_filter, h.sessions]
      refine List.filter_congr fun s _ => ?_
      by_cases hs : s.id = id <;> simp [hs, hid]
  | markChallengeStarted | recordRoundScore | finishSession | updateStreak
  | checkAndAwardSessionBadges | flagSession | abandonSession => exact hedit

theorem practice_sessionsAfter (h : Without removed db db') (haside : PracticeAside removed db st)
    {s' : GameSession} (hs' : s' ∈ db.sessionsAfter st) (hremoved : removed s'.id = true) :
    s'.isPractice = true ∧ s'.userId.isSome = true := by
  obtain ⟨s, hs, rfl | rfl⟩ | ⟨id, data, now, rfl, rfl⟩ := mem_sessionsAfter hs'
  · exact h.practice s' hs hremoved
  · rw [Edit.id_eq] at hremoved
    rw [Edit.isPractice_eq, Edit.userId_eq]
    exact h.practice s hs hremoved
  · have hid : removed id = true := hremoved
    rw [PracticeAside, hid] at haside
    exact ⟨haside, rfl⟩

/-- A statement of a session that stays, in both. -/
theorem exec_kept (h : Without removed db db') (hst : removed st.sessionId = false)
    (haside : PracticeAside removed db st) : Without removed (db.exec st) (db'.exec st) := by
  have hnext := exec_outcome db st
  have hnext' := exec_outcome db' st
  refine ⟨?_, ?_, ?_, ?_⟩
  · rw [hnext.sessions, hnext'.sessions, h.sessionsAfter_kept hst haside]
  · intro s hs
    rw [hnext.sessions] at hs
    exact h.practice_sessionsAfter haside hs
  · intro userId
    rw [hnext.users, hnext'.users, usersAfter_isSome, usersAfter_isSome, h.known]
  · rw [hnext.setting, hnext'.setting, h.setting]

/-- A statement of a session to remove, in one. -/
theorem exec_removed (h : Without removed db db') (hst : removed st.sessionId = true)
    (haside : PracticeAside removed db st) : Without removed (db.exec st) db' := by
  have hnext := exec_outcome db st
  refine ⟨?_, ?_, ?_, ?_⟩
  · rw [hnext.sessions, ← h.sessionsAfter_removed hst]
  · intro s hs
    rw [hnext.sessions] at hs
    exact h.practice_sessionsAfter haside hs
  · intro userId
    rw [hnext.users, usersAfter_isSome, h.known]
  · rw [hnext.setting, h.setting]

end Without
end Without

/-! ### Sessions that are not finished -/

section Quiet
variable {removed : Uuid → Bool} {db db' : Db} {st : Statement}

/-- The session was not completed and has no points. -/
def GameSession.Unplayed (s : GameSession) : Prop := s.totalScore = 0 ∧ s.isCompleted = false

/-- Beside the sessions to remove, which were not finished, there is no difference. -/
structure Quiet (removed : Uuid → Bool) (db db' : Db) : Prop extends Without removed db db' where
  unplayed : ∀ s ∈ db.sessions, removed s.id = true → s.Unplayed
  users : db'.users = db.users
  userBadges : db'.userBadges = db.userBadges

theorem Edit.restrict_unplayed {edit : Edit} (h : ∀ s, s.Unplayed → (edit.set s).Unplayed)
    (condition : GameSession → Bool) {s : GameSession} (hs : s.Unplayed) :
    ((edit.restrict condition).set s).Unplayed := by
  show (if condition s then edit.set s else s).Unplayed
  split
  · exact h s hs
  · exact hs

/-- Only finishing completes a session and gives it points. -/
theorem editAt_unplayed (hfinished : db.finished st = none) {s : GameSession} (hs : s.Unplayed) :
    ((db.editAt st).set s).Unplayed := by
  refine Edit.restrict_unplayed (fun s hs => ?_) _ hs
  cases st with
  | claimSession | deleteSession | updateStreak | checkAndAwardSessionBadges => exact hs
  | markChallengeStarted | flagSession => exact ⟨hs.1, rfl⟩
  | abandonSession id now => exact Edit.restrict_unplayed (fun s hs => ⟨hs.1, rfl⟩) _ hs
  | recordRoundScore id round score answer reactionTimeMs =>
      rw [Db.edit]
      split <;> exact hs
  | finishSession id now =>
      rw [Db.edit, hfinished]
      exact hs

namespace Quiet

theorem unplayed_exec (h : Quiet removed db db')
    (hunfinished : removed st.sessionId = true → db.finished st = none) {s' : GameSession}
    (hs' : s' ∈ (db.exec st).sessions) (hremoved : removed s'.id = true) : s'.Unplayed := by
  rw [(exec_outcome db st).sessions] at hs'
  obtain ⟨s, hs, rfl | rfl⟩ | ⟨id, data, now, rfl, rfl⟩ := mem_sessionsAfter hs'
  · exact h.unplayed s' hs hremoved
  · rw [Edit.id_eq] at hremoved
    by_cases hsid : s.id = st.sessionId
    · exact editAt_unplayed (hunfinished (hsid ▸ hremoved)) (h.unplayed s hs hremoved)
    · rw [editAt_of_ne db hsid]
      exact h.unplayed s hs hremoved
  · exact ⟨rfl, rfl⟩

theorem findUserById (h : Quiet removed db db') : db'.findUserById = db.findUserById := by
  funext userId
  rw [Db.findUserById, h.users, Db.findUserById]

theorem checkAndAwardSessionBadges (h : Quiet removed db db') (userId : Uuid) (totalScore : Int) :
    (db'.checkAndAwardSessionBadges userId totalScore false).1 =
        (db.checkAndAwardSessionBadges userId totalScore false).1 ∧
      (db'.checkAndAwardSessionBadges userId totalScore false).2.userBadges =
        (db.checkAndAwardSessionBadges userId totalScore false).2.userBadges := by
  simp only [Db.checkAndAwardSessionBadges, h.findUserById, h.userBadges]
  cases db.findUserById userId with
  | none => exact ⟨rfl, h.userBadges⟩
  | some user => exact ⟨rfl, rfl⟩

theorem usersAfter_kept (h : Quiet removed db db') (hst : removed st.sessionId = false) :
    db'.usersAfter st = db.usersAfter st := by
  have hedit : db'.userEdit st = db.userEdit st := by
    cases st with
    | finishSession id now => rw [Db.userEdit, h.finished hst, Db.userEdit]
    | updateStreak id today =>
        have hid : removed id = false := hst
        rw [Db.userEdit, h.competitor hid, h.findUserById, Db.userEdit]
    | claimSession | deleteSession | markChallengeStarted | recordRoundScore
    | checkAndAwardSessionBadges | flagSession | abandonSession => rfl
  rw [Db.usersAfter, hedit, h.users, Db.usersAfter]

theorem userBadgesAfter_kept (h : Quiet removed db db') (hst : removed st.sessionId = false) :
    db'.userBadgesAfter st = db.userBadgesAfter st := by
  cases st with
  | checkAndAwardSessionBadges id =>
      have hid : removed id = false := hst
      rw [Db.userBadgesAfter, h.competitor hid, Db.userBadgesAfter]
      cases db.competitor id with
      | none => exact h.userBadges
      | some competitor => exact (h.checkAndAwardSessionBadges competitor.1 competitor.2).2
  | claimSession | deleteSession | markChallengeStarted | recordRoundScore | finishSession
  | updateStreak | flagSession | abandonSession => exact h.userBadges

theorem exec_kept (h : Quiet removed db db') (hst : removed st.sessionId = false)
    (haside : PracticeAside removed db st) : Quiet removed (db.exec st) (db'.exec st) where
  toWithout := h.toWithout.exec_kept hst haside
  unplayed s hs := h.unplayed_exec (fun hremoved => absurd hremoved (by simp [hst])) hs
  users := by
    rw [(exec_outcome db st).users, (exec_outcome db' st).users, h.usersAfter_kept hst]
  userBadges := by
    rw [(exec_outcome db st).userBadges, (exec_outcome db' st).userBadges,
      h.userBadgesAfter_kept hst]

/-- What the answer route does after a session leaves practice sessions out. -/
theorem competitor_removed (h : Quiet removed db db') {id : Uuid} (hid : removed id = true) :
    db.competitor id = none := by
  rw [Db.competitor]
  cases hfound : db.byId id with
  | none => rfl
  | some s =>
      obtain ⟨hs, hsid⟩ := byId_spec hfound
      have hpractice := (h.practice s hs (hsid ▸ hid)).1
      rw [Option.bind_some, if_pos hpractice]

theorem exec_removed (h : Quiet removed db db') (hst : removed st.sessionId = true)
    (haside : PracticeAside removed db st) (hunfinished : db.finished st = none) :
    Quiet removed (db.exec st) db' where
  toWithout := h.toWithout.exec_removed hst haside
  unplayed s hs := h.unplayed_exec (fun _ => hunfinished) hs
  users := by
    have hedit : db.userEdit st = none := by
      cases st with
      | finishSession id now => rw [Db.userEdit, hunfinished, Option.bind_none]
      | updateStreak id today =>
          have hid : removed id = true := hst
          rw [Db.userEdit, h.competitor_removed hid, Option.bind_none]
      | claimSession | deleteSession | markChallengeStarted | recordRoundScore
      | checkAndAwardSessionBadges | flagSession | abandonSession => rfl
    rw [(exec_outcome db st).users, Db.usersAfter, hedit, h.users]
  userBadges := by
    have hbadges : db.userBadgesAfter st = db.userBadges := by
      cases st with
      | checkAndAwardSessionBadges id =>
          have hid : removed id = true := hst
          rw [Db.userBadgesAfter, h.competitor_removed hid]
      | claimSession | deleteSession | markChallengeStarted | recordRoundScore | finishSession
      | updateStreak | flagSession | abandonSession => rfl
    rw [(exec_outcome db st).userBadges, hbadges, h.userBadges]

theorem run {history : List Statement} (h : Quiet removed db db')
    (haside : Along (PracticeAside removed) db history)
    (hunfinished : Unfinished removed db history) :
    Quiet removed (db.run history) (db'.run (withoutSessions removed history)) := by
  induction history generalizing db db' with
  | nil => exact h
  | cons st history ih =>
      obtain ⟨haside, hrest⟩ := haside
      obtain ⟨hunfinished, hlater⟩ := hunfinished
      cases hst : removed st.sessionId with
      | true =>
          rw [withoutSessions, List.filter_cons_of_neg (by simp [hst])]
          exact ih (h.exec_removed hst haside (hunfinished hst)) hrest hlater
      | false =>
          rw [withoutSessions, List.filter_cons_of_pos (by simp [hst])]
          exact ih (h.exec_kept hst haside) hrest hlater

end Quiet
end Quiet

/-! ### Sessions that are finished -/

section Ahead
variable {removed : Uuid → Bool} {db db' : Db} {st : Statement}

/-- With the sessions to remove, a player has played at least as many challenges. -/
def Ahead (db db' : Db) : Prop :=
  ∀ userId, db'.challengesPlayed userId ≤ db.challengesPlayed userId

/-- One player has played more. -/
def FurtherAhead (db db' : Db) : Prop :=
  ∃ userId, db'.challengesPlayed userId < db.challengesPlayed userId

theorem Without.challengesPlayed_kept (h : Without removed db db')
    (hst : removed st.sessionId = false) (userId : Uuid) :
    ∃ n, (db.exec st).challengesPlayed userId = db.challengesPlayed userId + n ∧
      (db'.exec st).challengesPlayed userId = db'.challengesPlayed userId + n :=
  ⟨_, challengesPlayed_exec db st userId, h.finished hst ▸ challengesPlayed_exec db' st userId⟩

theorem Without.ahead_exec_kept (h : Without removed db db') (hst : removed st.sessionId = false)
    (hahead : Ahead db db') : Ahead (db.exec st) (db'.exec st) := by
  intro userId
  obtain ⟨n, hn, hn'⟩ := h.challengesPlayed_kept hst userId
  rw [hn, hn']
  exact Nat.add_le_add_right (hahead userId) n

theorem Without.furtherAhead_exec_kept (h : Without removed db db')
    (hst : removed st.sessionId = false) (hfurther : FurtherAhead db db') :
    FurtherAhead (db.exec st) (db'.exec st) := by
  obtain ⟨userId, hless⟩ := hfurther
  obtain ⟨n, hn, hn'⟩ := h.challengesPlayed_kept hst userId
  refine ⟨userId, ?_⟩
  rw [hn, hn']
  exact Nat.add_lt_add_right hless n

theorem challengesPlayed_le_exec (db : Db) (st : Statement) (userId : Uuid) :
    db.challengesPlayed userId ≤ (db.exec st).challengesPlayed userId := by
  rw [challengesPlayed_exec]
  exact Nat.le_add_right _ _

/-- A practice session that is finished puts its player ahead. -/
theorem Without.furtherAhead_of_finished (h : Without removed db db')
    (hst : removed st.sessionId = true) {s : GameSession} (hfinished : db.finished st = some s)
    (hahead : Ahead db db') : FurtherAhead (db.exec st) db' := by
  obtain ⟨hs, hsid⟩ := finished_spec hfinished
  have hplayer := (h.practice s hs (hsid ▸ hst)).2
  obtain ⟨player, hplayer⟩ := Option.isSome_iff_exists.mp hplayer
  refine ⟨player, ?_⟩
  rw [challengesPlayed_exec, hfinished, Option.bind_some, if_pos hplayer]
  exact Nat.lt_succ_of_le (hahead player)

/-- Once ahead, a player stays ahead; and someone gets ahead if a session to remove is finished. -/
theorem Without.run_furtherAhead {history : List Statement} (h : Without removed db db')
    (haside : Along (PracticeAside removed) db history) (hahead : Ahead db db')
    (hfinished : FurtherAhead db db' ∨ ¬ Unfinished removed db history) :
    FurtherAhead (db.run history) (db'.run (withoutSessions removed history)) := by
  induction history generalizing db db' with
  | nil => exact hfinished.resolve_right fun hnot => hnot trivial
  | cons st history ih =>
      obtain ⟨haside, hrest⟩ := haside
      cases hst : removed st.sessionId with
      | true =>
          rw [withoutSessions, List.filter_cons_of_neg (by simp [hst])]
          have hle (userId : Uuid) := challengesPlayed_le_exec db st userId
          have hstill : Ahead (db.exec st) db' := fun userId => (hahead userId).trans (hle userId)
          refine ih (h.exec_removed hst haside) hrest hstill ?_
          cases hnow : db.finished st with
          | some s => exact .inl (h.furtherAhead_of_finished hst hnow hahead)
          | none =>
              refine hfinished.imp ?_ fun hnot hlater => hnot ⟨fun _ => hnow, hlater⟩
              rintro ⟨userId, hless⟩
              exact ⟨userId, hless.trans_le (hle userId)⟩
      | false =>
          rw [withoutSessions, List.filter_cons_of_pos (by simp [hst])]
          refine ih (h.exec_kept hst haside) hrest (h.ahead_exec_kept hst hahead) ?_
          refine hfinished.imp (h.furtherAhead_exec_kept hst) fun hnot hlater => hnot ⟨?_, hlater⟩
          intro hremoved
          rw [hst] at hremoved
          cases hremoved

end Ahead

/-! ### The results -/

/-- Without finished practice sessions, no result tells that there were any. -/
theorem Quiet.sameResults {removed : Uuid → Bool} {db db' : Db} (h : Quiet removed db db') :
    SameResults db db' := by
  have hteams : db'.teams = db.teams := congrArg Setting.teams h.setting
  have hmembers : db'.teamMembers = db.teamMembers := congrArg Setting.teamMembers h.setting
  have hassignments : db'.assignments = db.assignments :=
    congrArg Setting.assignments h.setting
  have hleagues : db'.leagues = db.leagues := congrArg Setting.leagues h.setting
  have hleaderboard (now : Timestamp) (q : LeaderboardQuery) (cursor : Option Cursor) :
      getLeaderboard db'.leaderboardDb now q cursor =
        getLeaderboard db.leaderboardDb now q cursor := by
    refine getLeaderboard_congr ?_ (congrArg Setting.userBlocks h.setting) ?_ now q cursor
    · funext userId
      exact congrArg (Option.map User.toUser) (congrFun h.users userId)
    · show (db'.sessions.map GameSession.toSessionRow).filter _ =
        (db.sessions.map GameSession.toSessionRow).filter _
      rw [List.filter_map, List.filter_map, h.sessions, List.filter_filter]
      congr 1
      refine List.filter_congr fun s hs => ?_
      cases hremoved : removed s.id with
      | false => simp
      | true => simp [(h.practice s hs hremoved).1]
  have hscores : db'.userScore = db.userScore := by
    funext challengeId userId
    refine userScore_congr h.sessions (fun s hs hkeep => ?_) challengeId userId
    exact (h.unplayed s hs (by simpa using hkeep)).1
  have hsums (weekStart : Int) : db'.sums weekStart = db.sums weekStart := by
    refine sums_congr h.users hleagues hassignments ?_ weekStart
    rw [h.sessions, List.filter_filter]
    refine List.filter_congr fun s hs => ?_
    cases hremoved : removed s.id with
    | false => simp
    | true => simp [(h.unplayed s hs hremoved).2]
  exact
    { leaderboard := hleaderboard
      teamLeaderboard := getChallengeTeamLeaderboard_congr h.users hteams hmembers hscores
      weeklyPoints := fun weekStart => by
        rw [recalculateWeeklyPoints_eq, recalculateWeeklyPoints_eq]
      league := fun weekStart => recalculateLeague_congr hassignments (hsums weekStart)
      totalScore := fun userId => by rw [h.users]
      challengesPlayed := fun userId => by rw [h.users]
      payouts := fun now challengeId poolAmountStroops tiers licenseTerms => by
        simp only [Db.payoutAllocations, Db.payoutSessions, hleaderboard]
      teamPayouts := calculateTeamPayoutAllocations_congr h.users hteams hmembers hscores
      badges := h.userBadges
      nextBadges := fun userId totalScore => (h.checkAndAwardSessionBadges userId totalScore).1 }

theorem DifferInPractice.quiet {removed : Uuid → Bool} {base : Db} {history : List Statement}
    (h : DifferInPractice removed base history) : Quiet removed base base where
  sessions := (List.filter_eq_self.mpr fun s hs => by simp [h.1 s hs]).symm
  practice s hs hremoved := absurd hremoved (by simp [h.1 s hs])
  known _ := rfl
  setting := rfl
  unplayed s hs hremoved := absurd hremoved (by simp [h.1 s hs])
  users := rfl
  userBadges := rfl

/-- **Practice does not influence the competition exactly as long as it is not finished**: the
results after a history and after the same history without some practice sessions are the same if
and only if none of these sessions is finished in it. -/
theorem practice_uninfluential_iff {removed : Uuid → Bool} {base : Db} {history : List Statement}
    (hpractice : DifferInPractice removed base history) :
    SameResults (base.run history) (base.run (withoutSessions removed history)) ↔
      Unfinished removed base history := by
  have hbase := hpractice.quiet
  constructor
  · intro hsame
    by_contra hfinished
    obtain ⟨userId, hless⟩ := hbase.toWithout.run_furtherAhead hpractice.2 (fun _ => le_rfl)
      (.inr hfinished)
    rw [Db.challengesPlayed, hsame.challengesPlayed userId, Db.challengesPlayed] at hless
    exact absurd hless (lt_irrefl _)
  · intro hunfinished
    exact (hbase.run hpractice.2 hunfinished).sameResults

/-! ### A practice session -/

def trainee : User where
  username := "kim".toList
  avatarUrl := []
  displayName := "Kim".toList
  league := some "bronze".toList
  totalEarnedUsdc := "0".toList
  embeddedWalletAddress := none
  stellarAddress := none
  deletedAt := none
  totalScore := 0
  challengesPlayed := 0
  streak := 0
  lastPlayDay := none

/-- One user, who is in a team for the challenge 7 and in a league. -/
def trainingGround : Db where
  userBlocks := []
  payouts _ _ := none
  teams := [⟨5, 7, "Owls".toList⟩]
  teamMembers := [⟨5, 7, 1⟩]
  leagues := []
  assignments := [⟨3, 1, .bronze, 1, 0, 0, none, false, false, none, none⟩]
  sessions := []
  ids_nodup := List.nodup_nil
  users userId := if userId = 1 then some trainee else none
  users_known _ hs := absurd hs List.not_mem_nil
  userBadges := []

/-- The user practises the challenge, up to the last answer. -/
def practised : List Statement :=
  [.claimSession 10 ⟨1, 7, true, none⟩ 0, .markChallengeStarted 10,
    .recordRoundScore 10 .one 140 (some .A) 3000, .recordRoundScore 10 .two 140 (some .A) 3000,
    .recordRoundScore 10 .three 140 (some .A) 3000]

theorem practised_differ (last : Statement) (h : last = .abandonSession 10 1000 ∨
    last = .finishSession 10 1000) :
    DifferInPractice (fun id => id = 10) trainingGround (practised ++ [last]) := by
  refine ⟨fun s hs => absurd hs List.not_mem_nil, ?_⟩
  rcases h with rfl | rfl <;>
    exact ⟨rfl, trivial, trivial, trivial, trivial, trivial, trivial⟩

/-- A practice session that is abandoned before it is finished leaves no trace. -/
theorem abandoned_practice_same_results :
    SameResults (trainingGround.run (practised ++ [.abandonSession 10 1000]))
      (trainingGround.run (withoutSessions (fun id => id = 10)
        (practised ++ [.abandonSession 10 1000]))) := by
  refine (practice_uninfluential_iff (practised_differ _ (.inl rfl))).mpr ?_
  exact ⟨fun _ => rfl, fun _ => rfl, fun _ => rfl, fun _ => rfl, fun _ => rfl, fun _ => rfl,
    trivial⟩

/-- A practice session that is finished counts: for the user, for the team and in the league. -/
theorem finished_practice_counts :
    let after := trainingGround.run (practised ++ [.finishSession 10 1000])
    let without := trainingGround.run (withoutSessions (fun id => id = 10)
      (practised ++ [.finishSession 10 1000]))
    DifferInPractice (fun id => id = 10) trainingGround (practised ++ [.finishSession 10 1000]) ∧
    ((after.users 1).map fun u => (u.totalScore, u.challengesPlayed)) = some (420, 1) ∧
    ((without.users 1).map fun u => (u.totalScore, u.challengesPlayed)) = some (0, 0) ∧
    (after.getChallengeTeamLeaderboard 7 50).map (fun team => team.totalScore) = [420] ∧
    (without.getChallengeTeamLeaderboard 7 50).map (fun team => team.totalScore) = [0] ∧
    ((after.recalculateLeague 0).assignments.map fun la => la.weeklyPoints) = [760] ∧
    ((without.recalculateLeague 0).assignments.map fun la => la.weeklyPoints) = [0] ∧
    ¬ SameResults after without := by
  refine ⟨practised_differ _ (.inr rfl), ?_, ?_, ?_, ?_, ?_, ?_, fun h => ?_⟩
  · decide +kernel
  · decide +kernel
  · decide +kernel
  · decide +kernel
  · decide +kernel
  · decide +kernel
  · exact absurd (h.challengesPlayed 1) (by decide +kernel)

end BrandBlitz.Competition
