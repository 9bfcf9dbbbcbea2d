import BrandBlitz.Competition.Tables

/-!
# BrandBlitz.Competition.Statements

**Histories of statements.** What sessions bring about, one after another: the statements on the
row of a session, and what the answer route calls after a session of the competition was finished
(`apps/api/src/routes/sessions.ts`). Every statement is about one session, and `exec_outcome` says
for all of them what it leaves behind.
-/

namespace BrandBlitz.Competition

open BrandBlitz.Lib
open BrandBlitz.Paging (Uuid Timestamp)
open BrandBlitz.Sessions (Round Choice maxInteger)

/-! ### Histories -/

/-- The statements that sessions bring about. -/
inductive Statement where
  | claimSession (id : Uuid) (data : SessionData) (now : Timestamp)
  | deleteSession (id : Uuid)
  | markChallengeStarted (id : Uuid)
  | recordRoundScore (id : Uuid) (round : Round) (score : Nat) (answer : Option Choice)
      (reactionTimeMs : Nat)
  | finishSession (id : Uuid) (now : Timestamp)
  /-- of the player whose session it is -/
  | updateStreak (id : Uuid) (today : Int)
  | checkAndAwardSessionBadges (id : Uuid)
  | flagSession (id : Uuid)
  | abandonSession (id : Uuid) (now : Timestamp)

/-- The session that a statement is about. -/
def Statement.sessionId : Statement → Uuid
  | .claimSession id .. | .deleteSession id | .markChallengeStarted id
  | .recordRoundScore id .. | .finishSession id _ | .updateStreak id _
  | .checkAndAwardSessionBadges id | .flagSession id | .abandonSession id _ => id

/-- `if (!completed.is_practice)`: the player and the score. -/
def Db.competitor (db : Db) (sessionId : Uuid) : Option (Uuid × Int) :=
  (db.byId sessionId).bind fun s =>
    if s.isPractice then none else s.userId.map fun userId => (userId, s.totalScore)

def Db.exec (db : Db) : Statement → Db
  | .claimSession id data now => (db.claimSession id data now).2
  | .deleteSession id => db.deleteSession id
  | .markChallengeStarted id => db.update id .markChallengeStarted
  | .recordRoundScore id round score answer reactionTimeMs =>
      (db.recordRoundScore id round score answer reactionTimeMs).2
  | .finishSession id now => (db.finishSession now id).2
  | .updateStreak id today =>
      match db.competitor id with
      | some (userId, _) => (db.updateStreak userId today).2
      | none => db
  | .checkAndAwardSessionBadges id =>
      match db.competitor id with
      | some (userId, totalScore) => (db.checkAndAwardSessionBadges userId totalScore false).2
      | none => db
  | .flagSession id => db.update id .flagSession
  | .abandonSession id now => db.update id (.abandonSession now)

def Db.run (db : Db) (history : List Statement) : Db := history.foldl Db.exec db

/-- A condition on every statement of a history, and on the database that it meets. -/
def Along (P : Db → Statement → Prop) : Db → List Statement → Prop
  | _, [] => True
  | db, st :: history => P db st ∧ Along P (db.exec st) history

/-- `users.challenges_played`, 0 without a row. -/
def Db.challengesPlayed (db : Db) (userId : Uuid) : Nat :=
  ((db.users userId).map User.challengesPlayed).getD 0

/-- The session that a statement finishes. -/
def Db.finished (db : Db) : Statement → Option GameSession
  | .finishSession id _ => (db.byId id).filter GameSession.finishable
  | _ => none

/-! ### What a statement does

A statement writes its session, perhaps a user and perhaps badges. Each of them is a function of
what is stored for the session and its user. -/

/-- The row stays as it is. -/
def Edit.keep : Edit where
  set s := s

/-- What a statement writes into its session, if it is there. -/
def Db.edit (db : Db) : Statement → Edit
  | .markChallengeStarted _ => .markChallengeStarted
  | .recordRoundScore _ round score answer reactionTimeMs =>
      if maxInteger < reactionTimeMs then .keep
      else .recordRoundScore round ⟨answer, score, some reactionTimeMs⟩
  | .finishSession id now =>
      if (db.finished (.finishSession id now)).isSome then .finish now else .keep
  | .flagSession _ => .flagSession
  | .abandonSession _ now => .abandonSession now
  | _ => .keep

/-- The same, on all sessions. -/
def Db.editAt (db : Db) (st : Statement) : Edit :=
  (db.edit st).restrict fun s => s.id = st.sessionId

/-- Can the session be inserted? -/
def Db.claimable (db : Db) (id : Uuid) (data : SessionData) : Bool :=
  db.sessions.all (fun s => !s.conflicts data) && db.sessions.all (fun s => s.id ≠ id) &&
    (db.users data.userId).isSome

def Db.sessionsAfter (db : Db) : Statement → List GameSession
  | .claimSession id data now =>
      if db.claimable id data then db.sessions ++ [.new id data now] else db.sessions
  | .deleteSession id => db.sessions.filter fun s => s.id ≠ id
  | st => db.sessions.map (db.editAt st).set

/-- The user that a statement writes, and what it writes. -/
def Db.userEdit (db : Db) : Statement → Option (Uuid × (User → User))
  | .finishSession id now =>
      (db.finished (.finishSession id now)).bind fun s =>
        s.userId.map fun userId => (userId, User.addScore s.roundTotal)
  | .updateStreak id today =>
      (db.competitor id).bind fun (userId, _) =>
        (db.findUserById userId).map fun _ => (userId, User.updateStreak today)
  | _ => none

def Db.usersAfter (db : Db) (st : Statement) : Uuid → Option User :=
  match db.userEdit st with
  | some (userId, set) => Function.update db.users userId ((db.users userId).map set)
  | none => db.users

def Db.userBadgesAfter (db : Db) : Statement → List (Uuid × Badge)
  | .checkAndAwardSessionBadges id =>
      match db.competitor id with
      | some (userId, totalScore) =>
          (db.checkAndAwardSessionBadges userId totalScore false).2.userBadges
      | none => db.userBadges
  | _ => db.userBadges

/-- The database after a statement. -/
structure Outcome (db : Db) (st : Statement) (next : Db) : Prop where
  setting : next.toSetting = db.toSetting
  sessions : next.sessions = db.sessionsAfter st
  users : next.users = db.usersAfter st
  userBadges : next.userBadges = db.userBadgesAfter st

theorem keep_restrict (condition : GameSession → Bool) :
    (Edit.keep.restrict condition).set = id := by
  funext s
  exact ite_self s

theorem map_editAt_of_keep {db : Db} {st : Statement} (h : db.edit st = .keep) :
    db.sessions.map (db.editAt st).set = db.sessions := by
  rw [Db.editAt, h, keep_restrict, List.map_id]

theorem map_editAt_of_absent {db : Db} {st : Statement} (h : db.byId st.sessionId = none) :
    db.sessions.map (db.editAt st).set = db.sessions := by
  refine (List.map_congr_left fun s hs => ?_).trans (List.map_id _)
  have hne : ¬ decide (s.id = st.sessionId) = true := List.find?_eq_none.mp h s hs
  exact if_neg hne

theorem claimSession_outcome (db : Db) (id : Uuid) (data : SessionData) (now : Timestamp) :
    Outcome db (.claimSession id data now) (db.claimSession id data now).2 := by
  have hrefused (h : db.claimable id data = false) :
      Outcome db (.claimSession id data now) db :=
    ⟨rfl, by rw [Db.sessionsAfter, h]; rfl, rfl, rfl⟩
  unfold Db.claimSession
  split
  · rename_i hconflict
    obtain ⟨s, hs, hconflict⟩ := List.any_eq_true.mp hconflict
    refine hrefused (Bool.eq_false_iff.mpr fun h => ?_)
    simp only [Db.claimable, Bool.and_eq_true, List.all_eq_true] at h
    simpa [hconflict] using h.1.1 s hs
  rename_i hconflict
  split
  · rename_i hid
    obtain ⟨s, hs, hsid⟩ := List.mem_map.mp hid
    refine hrefused (Bool.eq_false_iff.mpr fun h => ?_)
    simp only [Db.claimable, Bool.and_eq_true, List.all_eq_true] at h
    simpa [hsid] using h.1.2 s hs
  rename_i hid
  split
  · rename_i huser
    refine ⟨rfl, ?_, rfl, rfl⟩
    have hclaimable : db.claimable id data = true := by
      simp only [Db.claimable, Bool.and_eq_true, List.all_eq_true]
      refine ⟨⟨fun s hs => ?_, fun s hs => ?_⟩, huser⟩
      · simpa using fun h => hconflict (List.any_eq_true.mpr ⟨s, hs, h⟩)
      · simpa using fun h => hid (List.mem_map.mpr ⟨s, hs, h⟩)
    rw [Db.sessionsAfter, if_pos hclaimable]
    rfl
  · rename_i huser
    exact hrefused (by simp [Db.claimable, huser])

theorem finishSession_outcome (db : Db) (id : Uuid) (now : Timestamp) :
    Outcome db (.finishSession id now) (db.finishSession now id).2 := by
  have hrefused (h : db.finished (.finishSession id now) = none) :
      Outcome db (.finishSession id now) db := by
    refine ⟨rfl, ?_, ?_, rfl⟩
    · exact (map_editAt_of_keep (by simp [Db.edit, h])).symm
    · simp [Db.usersAfter, Db.userEdit, h]
  unfold Db.finishSession
  split
  · rename_i hnone
    exact hrefused (by simp [Db.finished, hnone])
  rename_i current hfound
  split
  · rename_i hdone
    refine hrefused ?_
    simp [Db.finished, hfound, GameSession.finishable, Option.isSome_iff_ne_none.mp hdone]
  rename_i hdone
  split
  · rename_i htotal
    have hfinished : db.finished (.finishSession id now) = some current := by
      simp [Db.finished, hfound, GameSession.finishable, htotal,
        Option.not_isSome_iff_eq_none.mp hdone]
    have hsessions : db.sessionsAfter (.finishSession id now) =
        (db.update id (.finish now)).sessions := by
      rw [Db.sessionsAfter, Db.editAt, Db.edit, hfinished]
      · rfl
      · nofun
      · nofun
    cases huser : current.userId with
    | none =>
        refine ⟨rfl, hsessions.symm, ?_, rfl⟩
        simp only [Db.usersAfter, Db.userEdit, hfinished, huser, Option.bind_some, Option.map_none]
        rfl
    | some userId =>
        refine ⟨rfl, hsessions.symm, ?_, rfl⟩
        simp only [Db.usersAfter, Db.userEdit, hfinished, huser, Option.bind_some, Option.map_some]
        rfl
  · rename_i htotal
    refine hrefused ?_
    simp [Db.finished, hfound, GameSession.finishable, Nat.lt_of_not_le htotal]

theorem updateStreak_outcome (db : Db) (id : Uuid) (today : Int) :
    Outcome db (.updateStreak id today) (db.exec (.updateStreak id today)) := by
  have hsessions : db.sessionsAfter (.updateStreak id today) = db.sessions :=
    map_editAt_of_keep rfl
  cases hcompetitor : db.competitor id with
  | none =>
      have hexec : db.exec (.updateStreak id today) = db := by simp only [Db.exec, hcompetitor]
      rw [hexec]
      exact ⟨rfl, hsessions.symm, by simp [Db.usersAfter, Db.userEdit, hcompetitor], rfl⟩
  | some competitor =>
      have hexec : db.exec (.updateStreak id today) = (db.updateStreak competitor.1 today).2 := by
        simp only [Db.exec, hcompetitor]
      rw [hexec, Db.updateStreak]
      cases hfound : db.findUserById competitor.1 with
      | none =>
          refine ⟨rfl, hsessions.symm, ?_, rfl⟩
          simp [Db.usersAfter, Db.userEdit, hcompetitor, hfound]
      | some user =>
          refine ⟨rfl, hsessions.symm, ?_, rfl⟩
          simp only [Db.usersAfter, Db.userEdit, hcompetitor, hfound, Option.bind_some,
            Option.map_some]
          rfl

theorem checkAndAwardSessionBadges_outcome (db : Db) (id : Uuid) :
    Outcome db (.checkAndAwardSessionBadges id) (db.exec (.checkAndAwardSessionBadges id)) := by
  have hsessions : db.sessionsAfter (.checkAndAwardSessionBadges id) = db.sessions :=
    map_editAt_of_keep rfl
  cases hcompetitor : db.competitor id with
  | none =>
      have hexec : db.exec (.checkAndAwardSessionBadges id) = db := by
        simp only [Db.exec, hcompetitor]
      rw [hexec]
      exact ⟨rfl, hsessions.symm, rfl, by simp only [Db.userBadgesAfter, hcompetitor]⟩
  | some competitor =>
      have hexec : db.exec (.checkAndAwardSessionBadges id) =
          (db.checkAndAwardSessionBadges competitor.1 competitor.2 false).2 := by
        simp only [Db.exec, hcompetitor]
      have hbadges : db.userBadgesAfter (.checkAndAwardSessionBadges id) =
          (db.checkAndAwardSessionBadges competitor.1 competitor.2 false).2.userBadges := by
        simp only [Db.userBadgesAfter, hcompetitor]
      rw [hexec]
      refine ⟨?_, ?_, ?_, hbadges.symm⟩
      · simp only [Db.checkAndAwardSessionBadges]
        cases db.findUserById competitor.1 <;> rfl
      · rw [hsessions]
        simp only [Db.checkAndAwardSessionBadges]
        cases db.findUserById competitor.1 <;> rfl
      · simp only [Db.checkAndAwardSessionBadges]
        cases db.findUserById competitor.1 <;> rfl

theorem recordRoundScore_outcome (db : Db) (id : Uuid) (round : Round) (score : Nat)
    (answer : Option Choice) (reactionTimeMs : Nat) :
    Outcome db (.recordRoundScore id round score answer reactionTimeMs)
      (db.recordRoundScore id round score answer reactionTimeMs).2 := by
  unfold Db.recordRoundScore
  split
  · rename_i hbig
    have hkeep : db.edit (.recordRoundScore id round score answer reactionTimeMs) = .keep :=
      if_pos hbig
    exact ⟨rfl, (map_editAt_of_keep hkeep).symm, rfl, rfl⟩
  rename_i hfits
  split
  · rename_i hnone
    have habsent : db.byId (Statement.recordRoundScore id round score answer
        reactionTimeMs).sessionId = none := hnone
    exact ⟨rfl, (map_editAt_of_absent habsent).symm, rfl, rfl⟩
  · refine ⟨rfl, ?_, rfl, rfl⟩
    rw [Db.sessionsAfter, Db.editAt, Db.edit, if_neg hfits]
    · rfl
    · nofun
    · nofun

/-- Every statement does what its session and its user call for. -/
theorem exec_outcome (db : Db) (st : Statement) : Outcome db st (db.exec st) := by
  cases st with
  | claimSession id data now => exact claimSession_outcome db id data now
  | deleteSession | markChallengeStarted | flagSession | abandonSession =>
      exact ⟨rfl, rfl, rfl, rfl⟩
  | recordRoundScore id round score answer reactionTimeMs =>
      exact recordRoundScore_outcome db id round score answer reactionTimeMs
  | finishSession id now => exact finishSession_outcome db id now
  | updateStreak id today => exact updateStreak_outcome db id today
  | checkAndAwardSessionBadges id => exact checkAndAwardSessionBadges_outcome db id

/-! ### What a statement leaves alone -/

theorem usersAfter_isSome (db : Db) (st : Statement) (userId : Uuid) :
    (db.usersAfter st userId).isSome = (db.users userId).isSome := by
  unfold Db.usersAfter
  cases db.userEdit st with
  | none => rfl
  | some edited =>
      by_cases hedited : userId = edited.1
      · rw [hedited]
        simp
      · simp [Function.update_of_ne hedited]

theorem editAt_of_ne (db : Db) {st : Statement} {s : GameSession} (h : s.id ≠ st.sessionId) :
    (db.editAt st).set s = s :=
  if_neg (by simpa using h)

/-- Every session was there before, was edited or is the one that was inserted. -/
theorem mem_sessionsAfter {db : Db} {st : Statement} {s' : GameSession}
    (h : s' ∈ db.sessionsAfter st) :
    (∃ s ∈ db.sessions, s' = s ∨ s' = (db.editAt st).set s) ∨
    (∃ id data now, st = .claimSession id data now ∧ s' = .new id data now) := by
  have hedit (h : s' ∈ db.sessions.map (db.editAt st).set) :
      ∃ s ∈ db.sessions, s' = s ∨ s' = (db.editAt st).set s := by
    obtain ⟨s, hs, rfl⟩ := List.mem_map.mp h
    exact ⟨s, hs, .inr rfl⟩
  cases st with
  | claimSession id data now =>
      rw [Db.sessionsAfter] at h
      split at h
      · rcases List.mem_append.mp h with h | h
        · exact .inl ⟨s', h, .inl rfl⟩
        · exact .inr ⟨id, data, now, rfl, List.mem_singleton.mp h⟩
      · exact .inl ⟨s', h, .inl rfl⟩
  | deleteSession id => exact .inl ⟨s', (List.mem_filter.mp h).1, .inl rfl⟩
  | markChallengeStarted | recordRoundScore | finishSession | updateStreak
  | checkAndAwardSessionBadges | flagSession | abandonSession => exact .inl (hedit h)

/-! ### Challenges that were played -/

/-- What is finished is the session of the statement. -/
theorem finished_spec {db : Db} {st : Statement} {s : GameSession} (h : db.finished st = some s) :
    s ∈ db.sessions ∧ s.id = st.sessionId := by
  cases st with
  | finishSession id now => exact byId_spec (Option.filter_eq_some_iff.mp h).1
  | claimSession | deleteSession | markChallengeStarted | recordRoundScore | updateStreak
  | checkAndAwardSessionBadges | flagSession | abandonSession => cases h

/-- One user is written, and the number of challenges that he played grows by `n`. -/
theorem challengesPlayed_of_edit {db next : Db} {edited : Uuid} {set : User → User} {n : Nat}
    (husers : next.users = Function.update db.users edited ((db.users edited).map set))
    (hset : ∀ user, (set user).challengesPlayed = user.challengesPlayed + n)
    (hknown : n = 0 ∨ (db.users edited).isSome = true) (userId : Uuid) :
    next.challengesPlayed userId =
      db.challengesPlayed userId + if userId = edited then n else 0 := by
  unfold Db.challengesPlayed
  rw [husers]
  by_cases hedited : userId = edited
  · subst hedited
    rw [Function.update_self, if_pos rfl]
    cases hfound : db.users userId with
    | none => rcases hknown with rfl | hknown <;> simp_all
    | some user => simp [hset]
  · rw [Function.update_of_ne hedited, if_neg hedited, Nat.add_zero]

theorem updateStreak_challengesPlayed (today : Int) (user : User) :
    (user.updateStreak today).challengesPlayed = user.challengesPlayed + 0 := by
  unfold User.updateStreak
  split <;> rfl

theorem challengesPlayed_of_no_edit {db : Db} {st : Statement} (h : db.userEdit st = none)
    (userId : Uuid) : (db.exec st).challengesPlayed userId = db.challengesPlayed userId := by
  rw [Db.challengesPlayed, (exec_outcome db st).users, Db.usersAfter, h, Db.challengesPlayed]

/-- A session that is finished counts for its player, and nothing else counts. -/
theorem challengesPlayed_exec (db : Db) (st : Statement) (userId : Uuid) :
    (db.exec st).challengesPlayed userId = db.challengesPlayed userId +
      if (db.finished st).bind (fun s => s.userId) = some userId then 1 else 0 := by
  cases st with
  | finishSession id now =>
      cases hfinished : db.finished (.finishSession id now) with
      | none => exact challengesPlayed_of_no_edit (by simp [Db.userEdit, hfinished]) userId
      | some s =>
          cases hplayer : s.userId with
          | none =>
              rw [Option.bind_some, hplayer]
              exact challengesPlayed_of_no_edit (by simp [Db.userEdit, hfinished, hplayer]) userId
          | some player =>
              have husers := (exec_outcome db (.finishSession id now)).users
              have hedit : db.userEdit (.finishSession id now) =
                  some (player, User.addScore s.roundTotal) := by
                simp [Db.userEdit, hfinished, hplayer]
              rw [Db.usersAfter, hedit] at husers
              have hknown := db.users_known s (finished_spec hfinished).1 player hplayer
              rw [challengesPlayed_of_edit husers (fun _ => rfl) (.inr hknown), Option.bind_some,
                hplayer]
              simp only [Option.some.injEq, eq_comm]
  | updateStreak id today =>
      show _ = db.challengesPlayed userId + 0
      cases hedit : db.userEdit (.updateStreak id today) with
      | none => exact challengesPlayed_of_no_edit hedit userId
      | some edited =>
          have husers := (exec_outcome db (.updateStreak id today)).users
          rw [Db.usersAfter, hedit] at husers
          have hset : edited.2 = User.updateStreak today := by
            obtain ⟨competitor, -, hedit⟩ := Option.bind_eq_some_iff.mp hedit
            obtain ⟨user, -, rfl⟩ := Option.map_eq_some_iff.mp hedit
            rfl
          have hplayed := challengesPlayed_of_edit husers
            (fun user => hset ▸ updateStreak_challengesPlayed today user) (.inl rfl) userId
          rwa [ite_self] at hplayed
  | claimSession | deleteSession | markChallengeStarted | recordRoundScore
  | checkAndAwardSessionBadges | flagSession | abandonSession =>
      exact challengesPlayed_of_no_edit rfl userId

end BrandBlitz.Competition
