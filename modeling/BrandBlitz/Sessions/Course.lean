import BrandBlitz.Sessions.Entry

/-!
# BrandBlitz.Sessions.Course

**What one call does to the table of sessions**, whichever route or job awaits it. Either
every row stays, with a change from a short list (`SessionRow.Change`), or a row is inserted,
and then with a new id and for a player who has none for the challenge, or abandoned rows give
way. What is proved of the sessions is proved by these cases.
-/

namespace BrandBlitz.Sessions

open BrandBlitz.Lib

/-! ### Rows -/

/-- The columns that say where a session stands agree. -/
structure SessionRow.SameCourse (row row' : SessionRow) : Prop where
  id : row'.session.id = row.session.id
  userId : row'.session.userId = row.session.userId
  challengeId : row'.session.challengeId = row.session.challengeId
  status : row'.session.status = row.session.status
  challengeStartedAt : row'.session.challengeStartedAt = row.session.challengeStartedAt
  completedAt : row'.session.completedAt = row.session.completedAt
  flagged : row'.session.flagged = row.session.flagged
  warmupCompletedAt : row'.warmupCompletedAt = row.warmupCompletedAt
  trail : row'.trail = row.trail

theorem SessionRow.SameCourse.refl (row : SessionRow) : row.SameCourse row :=
  ⟨rfl, rfl, rfl, rfl, rfl, rfl, rfl, rfl, rfl⟩

/-- What a call may do to a row at the time `now`. -/
inductive SessionRow.Change (now : Nat) : LobbyOp → SessionRow → SessionRow → Prop
  | content {op : LobbyOp} {row row' : SessionRow} : row.SameCourse row' → Change now op row row'
  | warmupCompleted {row : SessionRow} : row.warmupCompletedAt = none →
      Change now (.markWarmupCompleted row.session.id) row
        { row with warmupCompletedAt := some now }
  | started {row : SessionRow} :
      Change now (.markChallengeStarted row.session.id) row (row.setSession { row.session with
        challengeStartedAt := row.session.challengeStartedAt <|> some now
        status := .active })
  | finished {row : SessionRow} {totalScore : Nat} : row.session.completedAt = none →
      Change now (.answer (.finishSession row.session.id)) row (row.setSession { row.session with
        completedAt := some now
        status := .completed
        totalScore := totalScore })
  | abandoned {op : LobbyOp} {row : SessionRow} {reason : AbandonReason} : row.isOpen = true →
      Change now op row { row.setSession { row.session with
          status := .abandoned
          completedAt := row.session.completedAt <|> some now } with
        abandonReason := some reason }
  | flagged {row : SessionRow} {reasons : List Text} :
      Change now (.flagSession row.session.id reasons) row
        { row.setSession { row.session with flagged := true, status := .flagged } with
          flagReasons := row.flagReasons ++ reasons }

theorem SessionRow.Change.refl {now : Nat} {op : LobbyOp} (row : SessionRow) :
    row.Change now op row := .content (.refl row)

/-- Whose session it is does not change. -/
theorem SessionRow.Change.identity {now : Nat} {op : LobbyOp} {row row' : SessionRow}
    (h : row.Change now op row') : row'.session.id = row.session.id ∧
      row'.session.userId = row.session.userId ∧
      row'.session.challengeId = row.session.challengeId := by
  cases h with
  | content hsame => exact ⟨hsame.id, hsame.userId, hsame.challengeId⟩
  | warmupCompleted | started | finished | abandoned | flagged => exact ⟨rfl, rfl, rfl⟩

variable {row : SessionRow} {db : Db} {now : Nat}

@[simp] theorem SessionRow.setSession_session (row : SessionRow) (session : GameSession) :
    (row.setSession session).session = session := rfl

@[simp] theorem SessionRow.setSession_self (row : SessionRow) :
    row.setSession row.session = row := by
  simp [setSession]

theorem SessionRow.after_alone (row : SessionRow) (db : Db) : row.after (row.alone db) = row := by
  simp [after, alone]

theorem SessionRow.byId_alone (row : SessionRow) (db : Db) (sessionId : Id) :
    (row.alone db).byId sessionId = if row.hasId sessionId then some row.session else none := by
  by_cases hid : row.session.id = sessionId
  · simp [alone, Db.byId, hasId, hid]
  · simp [alone, Db.byId, hasId, hid]

/-- A statement `WHERE id = $1` changes the row with this id. -/
theorem SessionRow.run_updateById (row : SessionRow) (db : Db) (sessionId : Id)
    (set : GameSession → GameSession) :
    row.run db (·.updateById sessionId set) =
      if row.hasId sessionId then row.setSession (set row.session) else row := by
  simp only [run, Db.updateById, byId_alone]
  by_cases hid : row.hasId sessionId = true
  · rw [if_pos hid, if_pos hid]
    rfl
  · rw [if_neg hid, if_neg hid]
    exact row.after_alone db

/-- Finishing changes nothing, or it completes a session that is not. -/
theorem Db.finishSession_cases (db : Db) (now : Nat) (sessionId : Id) :
    (∃ answer, db.finishSession now sessionId = (answer, db)) ∨
    ∃ session, db.byId sessionId = some session ∧ session.completedAt = none ∧
      ∃ finished db', finished = { session with
          completedAt := some now
          status := .completed
          totalScore := db.roundTotal } ∧
        db.finishSession now sessionId = (.ok finished, db') ∧
        db'.session = some finished ∧ db'.roundScores = db.roundScores := by
  unfold Db.finishSession
  split
  · exact .inl ⟨_, rfl⟩
  rename_i session hfound
  split
  · exact .inl ⟨_, rfl⟩
  rename_i hopen
  split
  · exact .inl ⟨_, rfl⟩
  · exact .inr ⟨session, hfound, by simpa using hopen, _, _, rfl, rfl, rfl, rfl⟩

/-- A change of columns that do not count. -/
theorem SessionRow.change_setSession {op : LobbyOp} {session : GameSession}
    {roundScores : Round → Option RoundRecord} (hid : session.id = row.session.id)
    (huser : session.userId = row.session.userId)
    (hchallenge : session.challengeId = row.session.challengeId)
    (hstatus : session.status = row.session.status)
    (hstarted : session.challengeStartedAt = row.session.challengeStartedAt)
    (hcompleted : session.completedAt = row.session.completedAt)
    (hflagged : session.flagged = row.session.flagged) :
    row.Change now op { row.setSession session with roundScores := roundScores } :=
  .content ⟨hid, huser, hchallenge, hstatus, hstarted, hcompleted, hflagged, rfl, if_pos hstatus⟩

/-- An open session is abandoned, any other stays. -/
theorem SessionRow.change_abandon (op : LobbyOp) (row : SessionRow) (db : Db)
    (reason : AbandonReason) (now : Nat) : row.Change now op (row.abandon db reason now) := by
  unfold abandon
  split
  · rename_i hopen
    have hstatus : row.session.status = .warmup ∨ row.session.status = .active := by
      simpa [isOpen] using hopen
    have hrun : row.run db (·.abandonSession now) = row.setSession { row.session with
        status := .abandoned
        completedAt := row.session.completedAt <|> some now } := by
      simp [run, after, alone, Db.abandonSession, hstatus]
      rfl
    rw [hrun]
    exact .abandoned hopen
  · exact .refl row

/-- A call of the answer route, on the row that is the only one. -/
theorem SessionRow.change_perform (w : Lobby) (row : SessionRow) (op : Op) :
    row.Change w.clock (.answer op)
      (row.after (perform ⟨none, w.clock⟩ op (w.world (some row))).2.db) := by
  have hbyId : ∀ sessionId session, (row.alone w.rest.db).byId sessionId = some session →
      session = row.session ∧ row.session.id = sessionId := by
    intro sessionId session hfound
    rw [byId_alone] at hfound
    split at hfound
    · rename_i hid
      exact ⟨(Option.some.inj hfound).symm, by simpa [hasId] using hid⟩
    · cases hfound
  have hkept : ∀ db', db' = row.alone w.rest.db →
      row.Change w.clock (.answer op) (row.after db') := by
    rintro db' rfl
    rw [after_alone]
    exact .refl row
  cases op with
  | recordRoundScore sessionId round score answer reactionTimeMs =>
      obtain ⟨err, hfails⟩ | ⟨session, hfound, -, hdone⟩ :=
        (row.alone w.rest.db).recordRoundScore_cases sessionId round score answer reactionTimeMs
      · exact hkept _ (by simp only [perform, Lobby.world, hfails])
      · obtain ⟨rfl, -⟩ := hbyId _ _ hfound
        simp only [perform, Lobby.world, hdone]
        exact change_setSession rfl rfl rfl rfl rfl rfl rfl
  | finishSession sessionId =>
      obtain ⟨answer, hkeeps⟩ |
          ⟨session, hfound, hopen, finished, db', rfl, hdone, hsession, hrows⟩ :=
        (row.alone w.rest.db).finishSession_cases w.clock sessionId
      · exact hkept _ (by simp only [perform, Lobby.world, hkeeps])
      · obtain ⟨rfl, rfl⟩ := hbyId _ _ hfound
        simp only [perform, Lobby.world, hdone, after, hsession, hrows]
        exact .finished hopen
  | storeSessionHmac sessionId hmac =>
      have hrun := row.run_updateById w.rest.db sessionId
        fun session => { session with integrityHmac := some hmac }
      simp only [run] at hrun
      simp only [perform, Lobby.world, Db.storeSessionHmac, hrun]
      split
      · exact change_setSession rfl rfl rfl rfl rfl rfl rfl
      · exact .refl row
  | _ => exact hkept _ rfl

/-! ### The table -/

/-- What a call may do to the table. -/
inductive TableStep (op : LobbyOp) (w w' : Lobby) : Prop
  | updated (change : SessionRow → SessionRow) (hrows : w'.rows = w.rows.map change)
      (hids : w'.ids = w.ids) (hchange : ∀ row ∈ w.rows, row.Change w'.clock op (change row))
  | claimed (data : SessionData) (newId : Id) (hnone : ∀ row ∈ w.rows,
        row.isOf data.userId data.challengeId = false)
      (hnew : newId ∉ w.ids) (hids : w'.ids = newId :: w.ids)
      (hrows : w'.rows = w.rows ++ [.fresh data newId w'.clock])
  | replaced (data : SessionData) (newId : Id)
      (hold : ∃ row ∈ w.rows, row.replaceable data = true)
      (hnone : ∀ row ∈ w.rows, row.replaceable data = false →
        row.isOf data.userId data.challengeId = false)
      (hnew : newId ∉ w.ids) (hids : w'.ids = newId :: w.ids)
      (hrows : w'.rows = w.rows.filter (fun row => !row.replaceable data) ++
        [.fresh data newId w'.clock])
  | deleted (data : SessionData) (hother : ∃ row ∈ w.rows, row.replaceable data = false ∧
        row.isOf data.userId data.challengeId = true)
      (hids : w'.ids = w.ids)
      (hrows : w'.rows = w.rows.filter fun row => !row.replaceable data)

variable {op : LobbyOp} {w w' : Lobby} {e : LobbyEnv}

theorem TableStep.kept (hrows : w'.rows = w.rows) (hids : w'.ids = w.ids) : TableStep op w w' :=
  .updated id (by rw [hrows, List.map_id]) hids fun row _ => .refl row

/-- `UPDATE … WHERE …`. -/
theorem TableStep.update {condition : SessionRow → Bool} {set : SessionRow → SessionRow}
    (h : ∀ row, condition row = true → row.Change w.clock op (set row)) :
    TableStep op w (w.update condition set) := by
  refine .updated _ rfl rfl fun row _ => ?_
  split
  · rename_i hcondition
    exact h row hcondition
  · exact .refl row

/-- Where the rows of the table come from, and that no id is forgotten. -/
theorem TableStep.origin (h : TableStep op w w') :
    (∀ row' ∈ w'.rows, (∃ row ∈ w.rows, row.Change w'.clock op row') ∨
      ∃ data newId, newId ∉ w.ids ∧ newId ∈ w'.ids ∧ row' = .fresh data newId w'.clock) ∧
    ∀ id ∈ w.ids, id ∈ w'.ids := by
  cases h with
  | updated change hrows hids hchange =>
      refine ⟨fun row' hrow' => .inl ?_, fun id hid => hids ▸ hid⟩
      rw [hrows] at hrow'
      obtain ⟨row, hrow, rfl⟩ := List.mem_map.mp hrow'
      exact ⟨row, hrow, hchange row hrow⟩
  | claimed data newId hnone hnew hids hrows =>
      refine ⟨fun row' hrow' => ?_, fun id hid => hids ▸ List.mem_cons_of_mem _ hid⟩
      rw [hrows] at hrow'
      rcases List.mem_append.mp hrow' with hrow' | hrow'
      · exact .inl ⟨row', hrow', .refl row'⟩
      · exact .inr ⟨data, newId, hnew, hids ▸ List.mem_cons_self, List.mem_singleton.mp hrow'⟩
  | replaced data newId hold hnone hnew hids hrows =>
      refine ⟨fun row' hrow' => ?_, fun id hid => hids ▸ List.mem_cons_of_mem _ hid⟩
      rw [hrows] at hrow'
      rcases List.mem_append.mp hrow' with hrow' | hrow'
      · exact .inl ⟨row', List.mem_of_mem_filter hrow', .refl row'⟩
      · exact .inr ⟨data, newId, hnew, hids ▸ List.mem_cons_self, List.mem_singleton.mp hrow'⟩
  | deleted data hother hids hrows =>
      refine ⟨fun row' hrow' => .inl ?_, fun id hid => hids ▸ hid⟩
      rw [hrows] at hrow'
      exact ⟨row', List.mem_of_mem_filter hrow', .refl row'⟩

theorem Lobby.claimSession_cases (w : Lobby) (newId : Id) (data : SessionData) :
    (w.rows.any (·.isOf data.userId data.challengeId) = true ∧
      w.claimSession newId data = (.ok none, w)) ∨
    (∃ err, w.claimSession newId data = (.error err, w)) ∨
    w.rows.any (·.isOf data.userId data.challengeId) = false ∧ newId ∉ w.ids ∧
      w.claimSession newId data = (.ok (some (SessionRow.fresh data newId w.clock).session),
        { w with
          rows := w.rows ++ [.fresh data newId w.clock]
          ids := newId :: w.ids }) := by
  unfold claimSession
  split
  · rename_i hany
    exact .inl ⟨hany, rfl⟩
  rename_i hnone
  split
  · exact .inr (.inl ⟨_, rfl⟩)
  · rename_i hnew
    exact .inr (.inr ⟨by simpa using hnone, by simpa using hnew, rfl⟩)

theorem table_claimSession (newId : Id) (data : SessionData) :
    TableStep op w (w.claimSession newId data).2 := by
  obtain ⟨-, hkept⟩ | ⟨err, hfails⟩ | ⟨hnone, hnew, hdone⟩ := w.claimSession_cases newId data
  · rw [hkept]
    exact .kept rfl rfl
  · rw [hfails]
    exact .kept rfl rfl
  · rw [hdone]
    exact .claimed data newId (by simpa using hnone) hnew rfl rfl

theorem Lobby.replaceAbandoned_cases (w : Lobby) (newId : Id) (data : SessionData) :
    (∃ answer, w.replaceAbandoned newId data = (answer, w) ∧
      ∀ session, answer ≠ .ok (some session)) ∨
    (∃ row ∈ w.rows, row.replaceable data = true) ∧
    (((w.withoutAbandoned data).rows.any (·.isOf data.userId data.challengeId) = true ∧
        w.replaceAbandoned newId data = (.ok none, w.withoutAbandoned data)) ∨
      (w.withoutAbandoned data).rows.any (·.isOf data.userId data.challengeId) = false ∧
        newId ∉ w.ids ∧ w.replaceAbandoned newId data =
          (.ok (some (SessionRow.fresh data newId w.clock).session), { w with
            rows := (w.withoutAbandoned data).rows ++ [.fresh data newId w.clock]
            ids := newId :: w.ids })) := by
  unfold replaceAbandoned
  split
  · rename_i hany
    have hold : ∃ row ∈ w.rows, row.replaceable data = true := by simpa using hany
    obtain ⟨hany', hkept⟩ | ⟨err, hfails⟩ | ⟨hnone, hnew, hdone⟩ :=
      (w.withoutAbandoned data).claimSession_cases newId data
    · rw [hkept]
      exact .inr ⟨hold, .inl ⟨hany', rfl⟩⟩
    · rw [hfails]
      exact .inl ⟨_, rfl, nofun⟩
    · rw [hdone]
      exact .inr ⟨hold, .inr ⟨hnone, hnew, rfl⟩⟩
  · exact .inl ⟨_, rfl, nofun⟩

theorem table_replaceAbandoned (newId : Id) (data : SessionData) :
    TableStep op w (w.replaceAbandoned newId data).2 := by
  obtain ⟨answer, hkept, -⟩ | ⟨hold, ⟨hany, hdone⟩ | ⟨hnone, hnew, hdone⟩⟩ :=
    w.replaceAbandoned_cases newId data
  · rw [hkept]
    exact .kept rfl rfl
  · rw [hdone]
    refine .deleted data ?_ rfl rfl
    obtain ⟨row, hrow, hof⟩ := List.any_eq_true.mp hany
    obtain ⟨hmem, hkeep⟩ := List.mem_filter.mp hrow
    exact ⟨row, hmem, by simpa using hkeep, hof⟩
  · rw [hdone]
    refine .replaced data newId hold (fun row hrow hkeep => ?_) hnew rfl rfl
    have hall : ∀ row ∈ (w.withoutAbandoned data).rows,
        row.isOf data.userId data.challengeId = false := by
      simpa using hnone
    exact hall row (List.mem_filter.mpr ⟨hrow, by simp [hkeep]⟩)

theorem performLobby_table (e : LobbyEnv) (op : LobbyOp) (w : Lobby) :
    TableStep op w (performLobby e op w).2 := by
  cases op with
  | answer op => exact .updated _ rfl rfl fun row _ => row.change_perform w op
  | claimSession data => exact table_claimSession e.newId data
  | replaceAbandoned data => exact table_replaceAbandoned e.newId data
  | markWarmupStarted sessionId =>
      exact .update fun row _ => .content ⟨rfl, rfl, rfl, rfl, rfl, rfl, rfl, rfl, rfl⟩
  | markWarmupCompleted sessionId =>
      simp only [performLobby, Lobby.markWarmupCompleted]
      split
      · refine .update fun row hcondition => ?_
        obtain ⟨hid, hnone⟩ : row.session.id = sessionId ∧ row.warmupCompletedAt = none := by
          simpa [SessionRow.hasId] using hcondition
        rw [← hid]
        exact .warmupCompleted hnone
      · exact .kept rfl rfl
  | markChallengeStarted sessionId =>
      refine .update fun row hcondition => ?_
      obtain rfl : row.session.id = sessionId := by simpa [SessionRow.hasId] using hcondition
      simp only [Db.markChallengeStarted, SessionRow.run_updateById, if_pos hcondition]
      exact .started
  | abandonSession userId challengeId reason =>
      exact .update fun row _ => row.change_abandon _ w.rest.db reason w.clock
  | abandonOnError sessionId =>
      exact .update fun row _ => row.change_abandon _ w.rest.db .error w.clock
  | markAbandonedSessions =>
      exact .update fun row _ => row.change_abandon _ w.rest.db .timeout w.clock
  | flagSession sessionId reasons =>
      refine .update fun row hcondition => ?_
      obtain rfl : row.session.id = sessionId := by simpa [SessionRow.hasId] using hcondition
      simp only [Db.flagSession, SessionRow.run_updateById, if_pos hcondition]
      exact .flagged
  | _ => exact .kept rfl rfl

/-- A call has taken effect, or it has taken time only. -/
theorem exec_lobby (e : LobbyEnv) (op : LobbyOp) (w : Lobby) :
    (lobbyMachine.exec e op w).2 = (performLobby e op (w.later e)).2 ∨
      (lobbyMachine.exec e op w).2 = w.later e := by
  simp only [lobbyMachine]
  split
  · split
    · exact .inl rfl
    · dsimp only
      split
      · exact .inl rfl
      · exact .inr rfl
  · exact .inl rfl

/-- A call that is answered has taken effect. -/
theorem exec_of_ok {a : lobbySig.Ans op} (h : (lobbyMachine.exec e op w).1 = .ok a) :
    performLobby e op (w.later e) = (.ok a, (lobbyMachine.exec e op w).2) := by
  simp only [lobbyMachine] at h ⊢
  split at h
  · split at h
    · rw [if_pos ‹_›, ← h]
    · cases h
  · rw [← h]

theorem exec_infallible (hop : op.infallible = true) :
    lobbyMachine.exec e op w = performLobby e op (w.later e) := by
  simp only [lobbyMachine]
  split
  · rw [if_pos hop]
  · rfl

/-- **The inversion of a step**: all that one call, failing or not, may do to the table. -/
theorem exec_table (e : LobbyEnv) (op : LobbyOp) (w : Lobby) :
    TableStep op w (lobbyMachine.exec e op w).2 := by
  have hperform : TableStep op w (performLobby e op (w.later e)).2 := by
    cases performLobby_table e op (w.later e) with
    | updated change hrows hids hchange => exact .updated change hrows hids hchange
    | claimed data newId hnone hnew hids hrows => exact .claimed data newId hnone hnew hids hrows
    | replaced data newId hold hnone hnew hids hrows =>
        exact .replaced data newId hold hnone hnew hids hrows
    | deleted data hother hids hrows => exact .deleted data hother hids hrows
  rcases exec_lobby e op w with hworld | hworld
  · rw [hworld]
    exact hperform
  · rw [hworld]
    exact .kept rfl rfl

def LobbyEnv.takesEffect (e : LobbyEnv) : Bool := e.fault.all Fault.applied

/-- A call that took no effect has taken time at most. -/
theorem exec_without_effect (hop : op.infallible = false) (he : e.takesEffect = false) :
    (lobbyMachine.exec e op w).2 = w.later e := by
  obtain ⟨fault, elapsed, newId, pick, allowed⟩ := e
  cases fault with
  | none => cases he
  | some fault =>
      have happlied : fault.applied = false := he
      simp [lobbyMachine, hop, happlied]

/-- `getSession` finds a row and changes none. -/
theorem exec_getSession {userId challengeId : Id} {session : GameSession}
    (h : (lobbyMachine.exec e (.answer (.getSession userId challengeId)) w).1 =
      .ok (some session)) :
    ∃ row ∈ (lobbyMachine.exec e (.answer (.getSession userId challengeId)) w).2.rows,
      row.session = session ∧ row.isOf userId challengeId = true := by
  have hperform := exec_of_ok h
  have hrows : (lobbyMachine.exec e (.answer (.getSession userId challengeId)) w).2.rows =
      w.rows := by
    rw [← congrArg Prod.snd hperform]
    exact (List.map_congr_left fun row _ => row.after_alone w.rest.db).trans (List.map_id _)
  have hfound : getSession ((w.later e).world (w.rows.find? (·.isOf userId challengeId))).db
      userId challengeId = some session := Except.ok.inj (congrArg Prod.fst hperform)
  cases hfind : w.rows.find? (·.isOf userId challengeId) with
  | none =>
      rw [hfind] at hfound
      cases hfound
  | some row =>
      rw [hfind] at hfound
      refine ⟨row, hrows ▸ List.mem_of_find?_eq_some hfind, ?_, List.find?_some hfind⟩
      exact Option.some.inj (Option.filter_eq_some_iff.mp hfound).1

/-! ### A player on a first visit -/

/-- Nobody has played the one challenge there is. -/
def Lobby.opened : Lobby where
  rows := []
  rest :=
    { db := ⟨none, fun _ => none, fun _ => 0, fun _ => 0, []⟩
      challenges := [['c']]
      questions := fun _ => [⟨.one, .A⟩, ⟨.two, .B⟩, ⟨.three, .C⟩]
      revoked := fun _ => false
      cachedThresholds := some defaultThresholds
      configThresholds := (none, none)
      leaderboards := []
      streakUpdates := []
      badgeChecks := [] }
  clock := 0
  ids := []
  users _ := some false
  active := [['c']]
  variants _ := []
  tiers _ := []
  fingerprints _ := ⟨[], none⟩
  unlocks _ := none
  challengeTokens _ := none
  responses := []

def plainLobbyConfig : LobbyConfig := ⟨⟨[], fun _ text => text, fun _ => []⟩, id⟩

/-- A request of the player, with a challenge token. -/
def tokenRequest (challengeToken : Option Text) : LobbyRequest where
  apiKey := false
  token := some ['t']
  payload := some ⟨['p'], false⟩
  challengeId := ['c']
  round := none
  selectedOption := none
  reactionTimeMs := none
  visitorId := none
  deviceId := some ['d']
  ip := none
  userAgent := none
  body := some ⟨false, none, none, challengeToken⟩

/-- The next `n` steps of program `i`, the first of them `elapsed` after the last. -/
def visit (i n elapsed : Nat) : List (Nat × LobbyEnv) :=
  (i, ⟨none, elapsed, ['s'], 0, true⟩) :: List.replicate n (i, ⟨none, 0, ['s'], 0, true⟩)

end BrandBlitz.Sessions
