import BrandBlitz.Lib.Statements
import BrandBlitz.Sessions.Scoring

/-!
# BrandBlitz.Sessions.Table

**The session of a player for a challenge** as the database keeps it, and the statements that
write it (`apps/api/src/db/queries/sessions.ts`).

* There is at most one session of a player for a challenge (`UNIQUE (user_id, challenge_id)`),
  so the row of `game_sessions` is an `Option`, and the rows of `session_round_scores` are
  those of this session; they go when it goes (`ON DELETE CASCADE`).
* A score is stored three times: in the `round_N_*` columns of the session, in a row of
  `session_round_scores`, and, as a sum, in `total_score`.
* `finishSession` is a transaction that locks the session's row, and `recordRoundScore` is
  one statement that updates it, so each takes effect at one point in time.
-/

namespace BrandBlitz.Sessions

/-- A UUID. -/
abbrev Id := Text

inductive Round where
  | one | two | three
deriving DecidableEq, Repr

def Round.ofInt? : Int → Option Round
  | 1 => some .one
  | 2 => some .two
  | 3 => some .three
  | _ => none

inductive Status where
  | warmup | active | completed | flagged | abandoned
deriving DecidableEq, Repr

/-- What is stored of one round. -/
structure RoundRecord where
  answer : Option Choice
  score : Nat
  reactionTimeMs : Option Nat
deriving DecidableEq, Repr

/-- The defaults of the `round_N_*` columns. -/
def RoundRecord.unanswered : RoundRecord := ⟨none, 0, none⟩

/-- A row of `game_sessions`. -/
structure GameSession where
  id : Id
  userId : Id
  challengeId : Id
  status : Status
  challengeStartedAt : Option Nat
  completedAt : Option Nat
  /-- the columns `round_N_answer`, `round_N_score` and `round_N_reaction_ms` -/
  rounds : Round → RoundRecord
  totalScore : Nat
  rank : Option Nat
  flagged : Bool
  isPractice : Bool
  integrityHmac : Option Text

/-- `UPDATE users SET total_score = total_score + …`, as finishing a session does it. -/
structure Addition where
  sessionId : Id
  userId : Id
  amount : Nat
deriving DecidableEq, Repr

/-- The tables. -/
structure Db where
  session : Option GameSession
  /-- `session_round_scores` -/
  roundScores : Round → Option RoundRecord
  /-- `users.total_score` -/
  totalScore : Id → Nat
  /-- `users.challenges_played` -/
  challengesPlayed : Id → Nat
  /-- history: what was added to `users.total_score`, the latest last -/
  additions : List Addition

/-- The score of a row that may be absent. -/
def scoreOf (row : Option RoundRecord) : Nat := (row.map RoundRecord.score).getD 0

/-- A sum over the rounds. -/
def sumRounds (score : Round → Nat) : Nat := score .one + score .two + score .three

/-- The rows `WHERE id = $1`. -/
def Db.byId (db : Db) (sessionId : Id) : Option GameSession :=
  db.session.filter fun session => session.id = sessionId

/-- `UPDATE game_sessions SET … WHERE id = $1`. -/
def Db.updateById (db : Db) (sessionId : Id) (set : GameSession → GameSession) : Db :=
  match db.byId sessionId with
  | some session => { db with session := some (set session) }
  | none => db

/-! ### Queries of the answer route -/

/-- An error of the database. -/
def dbError (message : String) (code : String) : ApiError :=
  ⟨message.toList, none, some code.toList⟩

/-- The answer to a statement that is rejected before it runs. -/
def rejection (r : Lib.Statements.Rejection) : ApiError := dbError r.message r.code

def getSession (db : Db) (userId challengeId : Id) : Option GameSession :=
  db.session.filter fun session => session.userId = userId && session.challengeId = challengeId

/-- The largest `INTEGER`. -/
def maxInteger : Nat := 2147483647

/-- The upsert of `recordRoundScore`. It looks at nothing of the session but its id. -/
def Db.recordRoundScore (db : Db) (sessionId : Id) (round : Round) (score : Nat)
    (answer : Option Choice) (reactionTimeMs : Nat) : Except ApiError Unit × Db :=
  if maxInteger < reactionTimeMs then (.error (dbError "integer out of range" "22003"), db)
  else
    match db.byId sessionId with
    | none =>
        (.error (dbError "insert or update violates foreign key constraint" "23503"), db)
    | some session =>
        let row : RoundRecord := ⟨answer, score, some reactionTimeMs⟩
        (.ok (), { db with
          session := some { session with rounds := Function.update session.rounds round row }
          roundScores := Function.update db.roundScores round (some row) })

/-- The database after a round was recorded for a session. -/
def Db.withRound (db : Db) (session : GameSession) (round : Round) (row : RoundRecord) : Db :=
  { db with
    session := some { session with rounds := Function.update session.rounds round row }
    roundScores := Function.update db.roundScores round (some row) }

theorem Db.withRound_self (db : Db) (session : GameSession) (round : Round) (row : RoundRecord) :
    (db.withRound session round row).roundScores round = some row := by
  simp [Db.withRound]

theorem Db.withRound_of_ne (db : Db) (session : GameSession) {round r : Round}
    (row : RoundRecord) (hr : r ≠ round) :
    (db.withRound session round row).roundScores r = db.roundScores r := by
  simp [Db.withRound, hr]

/-- Recording fails and changes nothing, or it writes the row and the columns. -/
theorem Db.recordRoundScore_cases (db : Db) (sessionId : Id) (round : Round) (score : Nat)
    (answer : Option Choice) (reactionTimeMs : Nat) :
    (∃ err, db.recordRoundScore sessionId round score answer reactionTimeMs = (.error err, db)) ∨
    ∃ session, db.byId sessionId = some session ∧ reactionTimeMs ≤ maxInteger ∧
      db.recordRoundScore sessionId round score answer reactionTimeMs =
        (.ok (), db.withRound session round ⟨answer, score, some reactionTimeMs⟩) := by
  unfold Db.recordRoundScore
  split
  · exact .inl ⟨_, rfl⟩
  rename_i hfits
  split
  · exact .inl ⟨_, rfl⟩
  · rename_i session hfound
    exact .inr ⟨session, hfound, Nat.le_of_not_lt hfits, rfl⟩

/-- `SELECT COALESCE(SUM(score)::int, 0) … FROM session_round_scores`. -/
def Db.roundTotal (db : Db) : Nat := sumRounds fun round => scoreOf (db.roundScores round)

/-- The transaction `finishSession`, at the time `now`. -/
def Db.finishSession (db : Db) (now : Nat) (sessionId : Id) : Except ApiError GameSession × Db :=
  match db.byId sessionId with
  | none => (.error ⟨"Session not found".toList, none, none⟩, db)
  | some current =>
    if current.completedAt.isSome then (.ok current, db)
    -- `CHECK (total_score >= 0 AND total_score <= 450)`
    else if 450 < db.roundTotal then
      (.error (dbError "violates check constraint" "23514"), db)
    else
      let finished := { current with
        completedAt := some now
        status := .completed
        totalScore := db.roundTotal }
      (.ok finished, { db with
        session := some finished
        totalScore := Function.update db.totalScore finished.userId
          (db.totalScore finished.userId + finished.totalScore)
        challengesPlayed := Function.update db.challengesPlayed finished.userId
          (db.challengesPlayed finished.userId + 1)
        additions := db.additions ++ [⟨finished.id, finished.userId, finished.totalScore⟩] })

def Db.storeSessionHmac (db : Db) (sessionId : Id) (hmac : Text) : Db :=
  db.updateById sessionId fun session => { session with integrityHmac := some hmac }

/-! ### Other writers -/

/-- The row that `claimSession` inserts if there is none. -/
def GameSession.new (id userId challengeId : Id) (isPractice : Bool) : GameSession where
  id := id
  userId := userId
  challengeId := challengeId
  status := .warmup
  challengeStartedAt := none
  completedAt := none
  rounds _ := .unanswered
  totalScore := 0
  rank := none
  flagged := false
  isPractice := isPractice
  integrityHmac := none

def Db.claimSession (db : Db) (id userId challengeId : Id) (isPractice : Bool) : Db :=
  match db.session with
  | some _ => db
  | none => { db with
      session := some (.new id userId challengeId isPractice)
      roundScores := fun _ => none }

/-- The session and its rows are deleted: by `enforceOneSessionPerChallenge`, which replaces
an abandoned session, or by the archive job. -/
def Db.deleteSession (db : Db) : Db :=
  { db with session := none, roundScores := fun _ => none }

/-- `markChallengeStarted`, whatever the status is. -/
def Db.markChallengeStarted (db : Db) (now : Nat) (sessionId : Id) : Db :=
  db.updateById sessionId fun session => { session with
    challengeStartedAt := session.challengeStartedAt <|> some now
    status := .active }

def Db.flagSession (db : Db) (sessionId : Id) : Db :=
  db.updateById sessionId fun session => { session with flagged := true, status := .flagged }

/-- `abandonSession` and `markAbandonedSessions`, on this session. -/
def Db.abandonSession (db : Db) (now : Nat) : Db :=
  match db.session with
  | some session =>
    if session.status = .warmup || session.status = .active then
      { db with session := some { session with
        status := .abandoned
        completedAt := session.completedAt <|> some now } }
    else db
  | none => db

end BrandBlitz.Sessions
